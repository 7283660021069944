import StreamLinks.Text.Basic
/-!
Text as bytes in UTF-8, and bytes read as text.

Reading never fails: a sequence that breaks off or is not allowed becomes one replacement character,
and reading goes on with the byte that broke it.
-/
namespace StreamLinks.Text

/-- The bytes of a text in UTF-8. -/
def toBytes (text : Text) : List UInt8 := text.flatMap String.utf8EncodeChar

/-- The replacement character. -/
def replacement : Char := '\uFFFD'

/-- A character of which some bytes are still to come. -/
structure Owed where
  /-- The bytes still to come, beyond the next one. -/
  more : Nat
  /-- The least and the greatest value that the next byte may have. -/
  low : UInt8
  high : UInt8
  /-- The bits read so far. -/
  bits : Nat
  deriving Repr, DecidableEq

/-- What the first byte of a character says. -/
inductive Lead where
  | done (c : Char)
  | owes (owed : Owed)
  | broken
  deriving Repr, DecidableEq

/-- Reads the first byte of a character. -/
def lead (b : UInt8) : Lead :=
  if b < 0x80 then .done (Char.ofNat b.toNat)
  else if b < 0xC2 then .broken
  else if b < 0xE0 then .owes ⟨0, 0x80, 0xBF, b.toNat - 0xC0⟩
  else if b < 0xF0 then
    .owes ⟨1, if b = 0xE0 then 0xA0 else 0x80, if b = 0xED then 0x9F else 0xBF, b.toNat - 0xE0⟩
  else if b < 0xF5 then
    .owes ⟨2, if b = 0xF0 then 0x90 else 0x80, if b = 0xF4 then 0x8F else 0xBF, b.toNat - 0xF0⟩
  else .broken

/-- Reads bytes, given the character that is still incomplete. -/
def decodeFrom : Option Owed → List UInt8 → Text
  | none, [] => []
  | some _, [] => [replacement]
  | owed, b :: rest =>
    let fresh (lost : Text) : Text := match lead b with
      | .done c => lost ++ c :: decodeFrom none rest
      | .owes owed => lost ++ decodeFrom (some owed) rest
      | .broken => lost ++ replacement :: decodeFrom none rest
    match owed with
    | none => fresh []
    | some owed =>
      if owed.low ≤ b ∧ b ≤ owed.high then
        let bits := owed.bits * 64 + (b.toNat - 0x80)
        match owed.more with
        | 0 => Char.ofNat bits :: decodeFrom none rest
        | more + 1 => decodeFrom (some ⟨more, 0x80, 0xBF, bits⟩) rest
      else fresh [replacement]

/-- The text of bytes in UTF-8. -/
def ofBytes (bytes : List UInt8) : Text := decodeFrom none bytes

end StreamLinks.Text
