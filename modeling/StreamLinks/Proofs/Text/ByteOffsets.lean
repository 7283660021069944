import StreamLinks.Text.Utf8
/-!
Offsets in bytes.

A place in a text can be told by the number of bytes before it, but not every number of bytes is a place: a character
may take several of them. A part of a text is cut out by two offsets, and it is a fault if one of them lies inside a
character or behind the end, or if they are the wrong way round. No byte of such a character can be taken for one of
the characters that take a single byte.
-/
namespace StreamLinks

namespace Text
variable {text front back : Text} {offset : Nat} {c : Char}

-- The number of bytes that a text takes.
def byteLength (text : Text) : Nat := (toBytes text).length

theorem toBytes_append (front back : Text) : toBytes (front ++ back) = toBytes front ++ toBytes back :=
  List.flatMap_append

theorem toBytes_cons (c : Char) (text : Text) : toBytes (c :: text) = String.utf8EncodeChar c ++ toBytes text :=
  List.flatMap_cons

theorem byteLength_append (front back : Text) : byteLength (front ++ back) = byteLength front + byteLength back := by
  rw [byteLength, toBytes_append, List.length_append]
  rfl

theorem byteLength_cons (c : Char) (text : Text) : byteLength (c :: text) = c.utf8Size + byteLength text := by
  rw [byteLength, toBytes_cons, List.length_append, String.length_utf8EncodeChar]
  rfl

-- The parts before and behind an offset, unless it lies inside a character or behind the end of the text.
def splitAtByte? : (offset : Nat) → Text → Option (Text × Text)
  | 0, text => some ([], text)
  | _ + 1, [] => none
  | offset + 1, c :: text =>
    if c.utf8Size ≤ offset + 1 then
      (splitAtByte? (offset + 1 - c.utf8Size) text).map fun (front, back) => (c :: front, back)
    else none

theorem splitAtByte?_eq_some :
    splitAtByte? offset text = some (front, back) ↔ text = front ++ back ∧ offset = byteLength front := by
  constructor
  · intro split
    fun_induction splitAtByte? offset text generalizing front with
    | case1 text =>
      cases split
      exact ⟨rfl, rfl⟩
    | case2 => cases split
    | case3 offset c text fits ih =>
      obtain ⟨⟨before, behind⟩, found, same⟩ := Option.map_eq_some_iff.mp split
      cases same
      obtain ⟨rfl, rest⟩ := ih found
      exact ⟨rfl, by rw [byteLength_cons]; omega⟩
    | case4 => cases split
  · rintro ⟨rfl, rfl⟩
    induction front with
    | nil => rw [List.nil_append]; exact splitAtByte?.eq_1 back
    | cons c front ih =>
      obtain ⟨more, size⟩ : ∃ more, byteLength (c :: front) = more + 1 :=
        ⟨c.utf8Size - 1 + byteLength front, by have := c.utf8Size_pos; rw [byteLength_cons]; omega⟩
      have rest : more + 1 - c.utf8Size = byteLength front := by rw [byteLength_cons] at size; omega
      rw [size, List.cons_append, splitAtByte?, rest, ih, if_pos (by rw [byteLength_cons] at size; omega)]
      rfl

-- The character takes more than one byte.
def isWide (c : Char) : Bool := 0x80 ≤ c.toNat

theorem toNat_ofUInt8 (b : UInt8) : (Char.ofUInt8 b).toNat = b.toNat := rfl

theorem isWide_ofNat {n : Nat} (low : 0x80 ≤ n) (high : n < 0x100) :
    isWide (Char.ofUInt8 (UInt8.ofNat n)) = true := by
  rw [isWide, toNat_ofUInt8, UInt8.toNat_ofNat', Nat.mod_eq_of_lt high]
  exact decide_eq_true low

theorem ofUInt8_narrow (narrow : isWide c = false) : Char.ofUInt8 (UInt8.ofNat c.toNat) = c := by
  have small : ¬ 0x80 ≤ c.toNat := of_decide_eq_false narrow
  apply Char.toNat_inj.mp
  rw [toNat_ofUInt8, UInt8.toNat_ofNat', Nat.mod_eq_of_lt (by omega)]

theorem utf8EncodeChar_narrow (narrow : isWide c = false) : String.utf8EncodeChar c = [UInt8.ofNat c.toNat] := by
  have small : ¬ 0x80 ≤ c.val.toNat := of_decide_eq_false narrow
  rw [String.utf8EncodeChar, if_pos (by omega)]
  rfl

theorem utf8EncodeChar_wide (wide : isWide c = true) {b : UInt8} (present : b ∈ String.utf8EncodeChar c) :
    isWide (Char.ofUInt8 b) = true := by
  have large : 0x80 ≤ c.val.toNat := of_decide_eq_true wide
  rw [String.utf8EncodeChar, if_neg (by omega)] at present
  split at present
  · simp only [List.mem_cons, List.not_mem_nil, or_false] at present
    rcases present with rfl | rfl <;> exact isWide_ofNat (by omega) (by omega)
  · split at present
    · simp only [List.mem_cons, List.not_mem_nil, or_false] at present
      rcases present with rfl | rfl | rfl <;> exact isWide_ofNat (by omega) (by omega)
    · simp only [List.mem_cons, List.not_mem_nil, or_false] at present
      rcases present with rfl | rfl | rfl | rfl <;> exact isWide_ofNat (by omega) (by omega)

-- The bytes of a character, read as characters: a wide one has wide bytes only, and any other one is its only byte.
structure Encodes (c : Char) (first : UInt8) (others : List UInt8) : Prop where
  bytes : String.utf8EncodeChar c = first :: others
  wideOthers : ∀ b ∈ others, isWide (Char.ofUInt8 b) = true
  wideFirst : isWide c = true → isWide (Char.ofUInt8 first) = true
  single : isWide c = false → Char.ofUInt8 first = c ∧ others = []

theorem exists_encodes (c : Char) : ∃ first others, Encodes c first others := by
  cases wide : isWide c with
  | false => exact ⟨_, [], utf8EncodeChar_narrow wide, by simp, by simp [wide], fun _ => ⟨ofUInt8_narrow wide, rfl⟩⟩
  | true =>
    have filled : String.utf8EncodeChar c ≠ [] := by
      rw [← List.length_pos_iff, String.length_utf8EncodeChar]
      exact c.utf8Size_pos
    obtain ⟨first, others, bytes⟩ := List.exists_cons_of_ne_nil filled
    have each : ∀ b ∈ first :: others, isWide (Char.ofUInt8 b) = true := fun b present =>
      utf8EncodeChar_wide wide (bytes ▸ present)
    obtain ⟨wideFirst, wideOthers⟩ := List.forall_mem_cons.mp each
    exact ⟨first, others, bytes, wideOthers, fun _ => wideFirst, by simp [wide]⟩

section skipping
variable {β : Type} {value : Nat → β} {bytes before word behind : List UInt8} {front rest : Text} {c : Char}
  {first : UInt8} {others : List UInt8}

theorem Encodes.split (encodes : Encodes c first others) (front rest : Text) :
    toBytes (front ++ c :: rest) = toBytes front ++ first :: (others ++ toBytes rest) := by
  rw [toBytes_append, toBytes_cons, encodes.bytes, List.cons_append]

theorem Encodes.byteLength_concat (encodes : Encodes c first others) (front : Text) :
    byteLength (front ++ [c]) = byteLength front + 1 + others.length := by
  have split := encodes.split front []
  rw [byteLength, split, List.length_append, List.length_cons, List.length_append, byteLength]
  simp only [toBytes, List.flatMap_nil, List.length_nil]
  omega

-- The byte of a character that takes a single one.
theorem exists_byte (narrow : isWide c = false) (front rest : Text) : ∃ b, Char.ofUInt8 b = c ∧
    toBytes (front ++ c :: rest) = toBytes front ++ b :: toBytes rest ∧
      byteLength (front ++ [c]) = byteLength front + 1 := by
  obtain ⟨first, others, encodes⟩ := exists_encodes c
  obtain ⟨same, rfl⟩ := encodes.single narrow
  exact ⟨first, same, encodes.split front rest, encodes.byteLength_concat front⟩

theorem byteLength_concat (narrow : isWide c = false) (front : Text) :
    byteLength (front ++ [c]) = byteLength front + 1 := by
  obtain ⟨-, -, -, next⟩ := exists_byte narrow front []
  exact next

-- The value at the place of a wide byte is that at the next one.
def Skips (value : Nat → β) (bytes : List UInt8) : Prop := ∀ before b behind, bytes = before ++ b :: behind →
  isWide (Char.ofUInt8 b) = true → value before.length = value (before.length + 1)

theorem Skips.row (skips : Skips value bytes) (split : bytes = before ++ (word ++ behind))
    (wide : ∀ b ∈ word, isWide (Char.ofUInt8 b) = true) :
    value before.length = value (before.length + word.length) := by
  induction word generalizing before with
  | nil => rfl
  | cons b word ih =>
    obtain ⟨here, later⟩ := List.forall_mem_cons.mp wide
    have next := @ih (before ++ [b]) (by rw [split]; simp) later
    rw [List.length_append, List.length_singleton] at next
    rw [skips before b (word ++ behind) split here, next, List.length_cons, Nat.add_assoc, Nat.add_comm 1]

-- The bytes of a character behind its first one are passed over.
theorem Skips.remainder (skips : Skips value (toBytes (front ++ c :: rest))) :
    value (byteLength front + 1) = value (byteLength (front ++ [c])) := by
  obtain ⟨first, others, encodes⟩ := exists_encodes c
  have split : toBytes (front ++ c :: rest) = (toBytes front ++ [first]) ++ (others ++ toBytes rest) := by
    rw [encodes.split]
    simp
  have row := skips.row split encodes.wideOthers
  rw [encodes.byteLength_concat]
  simpa [byteLength] using row

-- So is the first one of a wide character.
theorem Skips.over (skips : Skips value (toBytes (front ++ c :: rest))) (wide : isWide c = true) :
    value (byteLength front) = value (byteLength (front ++ [c])) := by
  obtain ⟨first, others, encodes⟩ := exists_encodes c
  have here := skips (toBytes front) first _ (encodes.split front rest) (encodes.wideFirst wide)
  exact here.trans skips.remainder

end skipping
end Text

namespace Bytewise
open Text

-- What stops a program that takes texts apart by offsets in bytes.
inductive Fault where
  -- A part would end before it begins.
  | reversed
  -- A part would begin or end inside a character or behind the end of the text.
  | misplaced
  -- A counter would fall below zero.
  | belowZero
  deriving Repr, DecidableEq

abbrev Checked := Except Fault

theorem ok_bind {α β : Type} (value : α) (next : α → Checked β) : ((.ok value : Checked α) >>= next) = next value := rfl

-- The part of a text between two offsets.
def slice (text : Text) (start stop : Nat) : Checked Text :=
  if stop < start then .error .reversed
  else
    match splitAtByte? stop text with
    | none => .error .misplaced
    | some (front, _) =>
      match splitAtByte? start front with
      | none => .error .misplaced
      | some (_, part) => .ok part

-- The offset of the first occurrence of a mark.
def find? (mark text : Text) : Option Nat := (cut mark text).map fun (head, _) => byteLength head

variable {text mark head rest front part back : Text} {start stop : Nat} {c : Char}

-- Both offsets lie between characters of the text, the start no later than the end.
theorem slice_eq_ok_iff : slice text start stop = .ok part ↔
    ∃ front back, text = front ++ (part ++ back) ∧ start = byteLength front ∧ stop = byteLength (front ++ part) := by
  constructor
  · intro sliced
    unfold slice at sliced
    split at sliced
    · cases sliced
    · split at sliced
      · cases sliced
      · next upTo back atStop =>
        split at sliced
        · cases sliced
        · next front part atStart =>
          cases sliced
          obtain ⟨rfl, rfl⟩ := splitAtByte?_eq_some.mp atStop
          obtain ⟨rfl, rfl⟩ := splitAtByte?_eq_some.mp atStart
          exact ⟨front, back, List.append_assoc _ _ _, rfl, rfl⟩
  · rintro ⟨front, back, rfl, rfl, rfl⟩
    have atStop := splitAtByte?_eq_some.mpr ⟨(List.append_assoc front part back).symm, rfl⟩
    have atStart := splitAtByte?_eq_some.mpr ⟨Eq.refl (front ++ part), rfl⟩
    have ordered : ¬ byteLength (front ++ part) < byteLength front := by rw [byteLength_append]; omega
    simp only [slice, if_neg ordered, atStop, atStart]

example : slice "aé".toList 1 3 = .ok ['é'] ∧ slice "aé".toList 1 2 = .error .misplaced ∧
    slice "aé".toList 1 0 = .error .reversed := ⟨rfl, rfl, rfl⟩

theorem slice_part (front part back : Text) :
    slice (front ++ (part ++ back)) (byteLength front) (byteLength (front ++ part)) = .ok part :=
  slice_eq_ok_iff.2 ⟨front, back, rfl, rfl, rfl⟩

theorem slice_from (front back : Text) :
    slice (front ++ back) (byteLength front) (byteLength (front ++ back)) = .ok back :=
  slice_eq_ok_iff.2 ⟨front, [], by rw [List.append_nil], rfl, rfl⟩

theorem slice_upTo (front back : Text) : slice (front ++ back) 0 (byteLength front) = .ok front :=
  slice_eq_ok_iff.2 ⟨[], back, rfl, rfl, rfl⟩

-- Behind a character of a single byte.
theorem slice_behind (narrow : isWide c = false) (front part back : Text) :
    slice (front ++ c :: (part ++ back)) (byteLength front + 1) (byteLength (front ++ c :: part)) = .ok part := by
  rw [← byteLength_concat narrow, List.append_cons, List.append_cons front c part, slice_part]

theorem slice_rest (narrow : isWide c = false) (front back : Text) :
    slice (front ++ c :: back) (byteLength front + 1) (byteLength (front ++ c :: back)) = .ok back := by
  rw [← byteLength_concat narrow, List.append_cons, slice_from]

-- Up to and with such a character.
theorem slice_with (narrow : isWide c = false) (front part back : Text) :
    slice (front ++ (part ++ c :: back)) (byteLength front) (byteLength (front ++ part) + 1) = .ok (part ++ [c]) := by
  rw [← byteLength_concat narrow, List.append_cons part, List.append_assoc front part [c], slice_part]

theorem find?_of_cut (first : cut mark text = some (head, rest)) : find? mark text = some (byteLength head) := by
  rw [find?, first]
  rfl

theorem find?_of_absent (absent : cut mark text = none) : find? mark text = none := by
  rw [find?, absent]
  rfl

end Bytewise
end StreamLinks
