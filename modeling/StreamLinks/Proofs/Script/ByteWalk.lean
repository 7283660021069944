import Mathlib.Data.List.Induction
import StreamLinks.Proofs.Script.Walk
import StreamLinks.Proofs.Text.ByteOffsets
import StreamLinks.Proofs.Text.Classes
/-!
The walk over code, byte by byte.

A walk over bytes moves an index. Behind a backslash it moves on by two, which may be into the middle of a character,
and where a pattern literal is closed it moves behind the closing slash. The quotes, slashes and brackets that it looks
for take a single byte each, so it can stand inside a character only where it takes no notice of the bytes.
-/
namespace StreamLinks.Bytewise
open Text Script

section definitions

-- The nearest byte before a slash that is not blank lets a pattern literal begin, as the start of the script does.
def opensAt (bytes : List UInt8) (slash : Fin bytes.length) : Bool :=
  ((bytes.take slash).reverse.find? fun b => !isAsciiBlank (Char.ofUInt8 b)).all fun b => opensLiteral (Char.ofUInt8 b)

-- The index of the slash that closes a pattern literal of which the bytes from an index on are still to be read.
def literalEnd? (bytes : List UInt8) (inClass : Bool) (i : Nat) : Option Nat :=
  if inside : i < bytes.length then
    let c := Char.ofUInt8 bytes[i]
    if c = '\\' then literalEnd? bytes inClass (i + 2)
    else if c = '\n' then none
    else if c = '[' then literalEnd? bytes true (i + 1)
    else if c = ']' then literalEnd? bytes false (i + 1)
    else if c = '/' ∧ !inClass then some i
    else literalEnd? bytes inClass (i + 1)
  else none
termination_by bytes.length - i

theorem le_of_literalEnd? {bytes : List UInt8} {inClass : Bool} {i stop : Nat}
    (closes : literalEnd? bytes inClass i = some stop) : i ≤ stop := by
  fun_induction literalEnd? bytes inClass i with
  | case1 inClass i inside c escaped ih => exact Nat.le_of_add_right_le (ih closes)
  | case2 => cases closes
  | case3 inClass i inside c _ _ opening ih => exact Nat.le_of_succ_le (ih closes)
  | case4 inClass i inside c _ _ _ closing ih => exact Nat.le_of_succ_le (ih closes)
  | case5 inClass i inside c _ _ _ _ ends => cases closes; exact Nat.le_refl _
  | case6 inClass i inside c _ _ _ _ goesOn ih => exact Nat.le_of_succ_le (ih closes)
  | case7 => cases closes

-- The index at which a visitor ends the walk. It is shown the bytes outside literals with its state so far, and either
-- gives its next state or ends the walk here.
def walk (visit : Nat → Char → Option Nat) (bytes : List UInt8) (quote : Option Char) (depth i : Nat) : Option Nat :=
  if inside : i < bytes.length then
    let c := Char.ofUInt8 bytes[i]
    match quote with
    | some mark =>
      if c = '\\' then walk visit bytes (some mark) depth (i + 2)
      else walk visit bytes (if c = mark then none else some mark) depth (i + 1)
    | none =>
      if isQuote c then walk visit bytes (some c) depth (i + 1)
      else if c = '/' ∧ opensAt bytes ⟨i, inside⟩ then
        match closes : literalEnd? bytes false (i + 1) with
        | some stop => walk visit bytes none depth (stop + 1)
        | none => walk visit bytes none depth (i + 1)
      else
        match visit depth c with
        | some depth => walk visit bytes none depth (i + 1)
        | none => some i
  else none
termination_by bytes.length - i
decreasing_by
  all_goals first
    | omega
    | have := le_of_literalEnd? closes; omega

-- Counts braces, and ends the walk where a closing one takes the count to zero.
def braceVisitor (depth : Nat) (c : Char) : Option Nat :=
  if c = '{' then some (depth + 1)
  else if c = '}' then if depth - 1 = 0 then none else some (depth - 1)
  else some depth

-- Counts brackets, and ends the walk at a semicolon outside all of them.
def semicolonVisitor (depth : Nat) (c : Char) : Option Nat :=
  if c = '{' ∨ c = '[' ∨ c = '(' then some (depth + 1)
  else if c = '}' ∨ c = ']' ∨ c = ')' then some (depth - 1)
  else if c = ';' ∧ depth = 0 then none
  else some depth

-- The index of the brace that closes the one at an index.
def matchingBrace (script : Text) (start : Nat) : Option Nat := walk braceVisitor (toBytes script) none 0 start

-- The index of the first semicolon outside all brackets from an index on.
def statementEnd (script : Text) (start : Nat) : Option Nat := walk semicolonVisitor (toBytes script) none 0 start

end definitions

section steps
variable {visit : Nat → Char → Option Nat} {bytes front back : List UInt8} {b : UInt8} {inClass : Bool}
  {quote : Option Char} {depth i : Nat}

theorem length_lt (front back : List UInt8) (b : UInt8) : front.length < (front ++ b :: back).length := by
  simp

theorem exists_read (front back : List UInt8) (b : UInt8) :
    ∃ inside : front.length < (front ++ b :: back).length, (front ++ b :: back)[front.length] = b :=
  ⟨length_lt front back b, by simp⟩

theorem literalEnd?_here (front back : List UInt8) (b : UInt8) (inClass : Bool) :
    literalEnd? (front ++ b :: back) inClass front.length =
      if Char.ofUInt8 b = '\\' then literalEnd? (front ++ b :: back) inClass (front.length + 2)
      else if Char.ofUInt8 b = '\n' then none
      else if Char.ofUInt8 b = '[' then literalEnd? (front ++ b :: back) true (front.length + 1)
      else if Char.ofUInt8 b = ']' then literalEnd? (front ++ b :: back) false (front.length + 1)
      else if Char.ofUInt8 b = '/' ∧ !inClass then some front.length
      else literalEnd? (front ++ b :: back) inClass (front.length + 1) := by
  obtain ⟨inside, read⟩ := exists_read front back b
  rw [literalEnd?, dif_pos inside]
  simp only [read]

theorem literalEnd?_of_le (behind : bytes.length ≤ i) : literalEnd? bytes inClass i = none := by
  rw [literalEnd?, dif_neg (Nat.not_lt_of_le behind)]

theorem walk_quoted (visit : Nat → Char → Option Nat) (front back : List UInt8) (b : UInt8) (mark : Char)
    (depth : Nat) : walk visit (front ++ b :: back) (some mark) depth front.length =
      if Char.ofUInt8 b = '\\' then walk visit (front ++ b :: back) (some mark) depth (front.length + 2)
      else walk visit (front ++ b :: back) (if Char.ofUInt8 b = mark then none else some mark) depth
        (front.length + 1) := by
  obtain ⟨inside, read⟩ := exists_read front back b
  rw [walk, dif_pos inside]
  simp only [read]

theorem walk_quote (mark : isQuote (Char.ofUInt8 b) = true) : walk visit (front ++ b :: back) none depth front.length =
    walk visit (front ++ b :: back) (some (Char.ofUInt8 b)) depth (front.length + 1) := by
  obtain ⟨inside, read⟩ := exists_read front back b
  rw [walk, dif_pos inside]
  simp only [read, mark, if_true]

theorem walk_slash (slash : Char.ofUInt8 b = '/')
    (opens : opensAt (front ++ b :: back) ⟨front.length, length_lt front back b⟩ = true) :
    walk visit (front ++ b :: back) none depth front.length = walk visit (front ++ b :: back) none depth
      (((literalEnd? (front ++ b :: back) false (front.length + 1)).map (· + 1)).getD (front.length + 1)) := by
  obtain ⟨inside, read⟩ := exists_read front back b
  have unquoted : isQuote '/' = false := rfl
  rw [walk, dif_pos inside]
  simp only [read, slash, unquoted, opens, Bool.false_eq_true, if_false, and_self, if_true]
  split <;> simp only [*, Option.map_some, Option.map_none, Option.getD_some, Option.getD_none]

theorem walk_visit (unquoted : isQuote (Char.ofUInt8 b) = false)
    (divides : ¬ (Char.ofUInt8 b = '/' ∧ opensAt (front ++ b :: back) ⟨front.length, length_lt front back b⟩ = true)) :
    walk visit (front ++ b :: back) none depth front.length =
      (visit depth (Char.ofUInt8 b)).elim (some front.length) fun depth =>
        walk visit (front ++ b :: back) none depth (front.length + 1) := by
  obtain ⟨inside, read⟩ := exists_read front back b
  rw [walk, dif_pos inside]
  simp only [read, unquoted, Bool.false_eq_true, if_false, if_neg divides]
  cases visit depth (Char.ofUInt8 b) <;> rfl

theorem walk_of_le (behind : bytes.length ≤ i) : walk visit bytes quote depth i = none := by
  rw [walk, dif_neg (Nat.not_lt_of_le behind)]

end steps

section literals
variable {bytes : List UInt8} {inClass : Bool} {front rest : Text} {c : Char}

theorem skips_literalEnd? (bytes : List UInt8) (inClass : Bool) : Skips (literalEnd? bytes inClass) bytes := by
  rintro before b behind rfl wide
  have other (mark : Char) (narrow : isWide mark = false) : Char.ofUInt8 b ≠ mark := ne_of_class wide mark narrow
  rw [literalEnd?_here, if_neg (other _ rfl), if_neg (other _ rfl), if_neg (other _ rfl), if_neg (other _ rfl),
    if_neg fun slash => other _ rfl slash.1]

theorem literalEnd?_narrow (narrow : isWide c = false) (front rest : Text) (inClass : Bool) :
    literalEnd? (toBytes (front ++ c :: rest)) inClass (byteLength front) =
      if c = '\\' then literalEnd? (toBytes (front ++ c :: rest)) inClass (byteLength (front ++ [c]) + 1)
      else if c = '\n' then none
      else if c = '[' then literalEnd? (toBytes (front ++ c :: rest)) true (byteLength (front ++ [c]))
      else if c = ']' then literalEnd? (toBytes (front ++ c :: rest)) false (byteLength (front ++ [c]))
      else if c = '/' ∧ !inClass then some (byteLength front)
      else literalEnd? (toBytes (front ++ c :: rest)) inClass (byteLength (front ++ [c])) := by
  obtain ⟨b, same, split, next⟩ := exists_byte narrow front rest
  rw [next, split, byteLength, literalEnd?_here, same]

-- A backslash takes the next character with it, however many bytes that has.
theorem literalEnd?_escape (front rest : Text) (c : Char) (inClass : Bool) :
    literalEnd? (toBytes (front ++ '\\' :: c :: rest)) inClass (byteLength front) =
      literalEnd? (toBytes (front ++ '\\' :: c :: rest)) inClass (byteLength (front ++ ['\\', c])) := by
  have behind : front ++ '\\' :: c :: rest = (front ++ ['\\']) ++ c :: rest := by simp
  have skips := skips_literalEnd? (toBytes ((front ++ ['\\']) ++ c :: rest)) inClass
  have whole : front ++ ['\\', c] = (front ++ ['\\']) ++ [c] := by simp
  rw [literalEnd?_narrow rfl, if_pos rfl, whole, behind, skips.remainder]

-- A character that neither ends the literal nor takes the next one with it.
theorem literalEnd?_next (unescaped : c ≠ '\\') (sameLine : c ≠ '\n') (goesOn : ¬ (c = '/' ∧ (!inClass) = true))
    (front rest : Text) : literalEnd? (toBytes (front ++ c :: rest)) inClass (byteLength front) =
      literalEnd? (toBytes (front ++ c :: rest)) (if c = '[' then true else if c = ']' then false else inClass)
        (byteLength (front ++ [c])) := by
  cases wide : isWide c with
  | true =>
    have other (mark : Char) (narrow : isWide mark = false) : c ≠ mark := ne_of_class wide mark narrow
    rw [if_neg (other _ rfl), if_neg (other _ rfl), (skips_literalEnd? _ inClass).over wide]
  | false =>
    rw [literalEnd?_narrow wide, if_neg unescaped, if_neg sameLine, if_neg goesOn]
    split
    · rfl
    · split <;> rfl

-- The slash that is found is the one up to and with which the characters are counted.
theorem literalEnd?_eq (front rest : Text) (inClass : Bool) :
    (literalEnd? (toBytes (front ++ rest)) inClass (byteLength front)).map (· + 1) =
      (literalLength? inClass rest).map fun size => byteLength (front ++ rest.take size) := by
  fun_induction literalLength? inClass rest generalizing front with
  | case1 inClass =>
    have atEnd : (toBytes (front ++ [])).length ≤ byteLength front := by rw [List.append_nil]; exact Nat.le_refl _
    rw [literalEnd?_of_le atEnd]
    rfl
  | case2 inClass =>
    have behind : (toBytes (front ++ ['\\'])).length ≤ byteLength (front ++ ['\\']) + 1 := Nat.le_succ _
    rw [literalEnd?_narrow rfl, if_pos rfl, literalEnd?_of_le behind]
    rfl
  | case3 inClass c rest ih =>
    have later := ih (front ++ ['\\', c])
    simp only [List.append_assoc] at later
    rw [literalEnd?_escape, Option.map_map]
    exact later
  | case4 inClass rest alone escapes =>
    rw [literalEnd?_narrow rfl]
    rfl
  | case5 inClass c rest alone escapes sameLine ends =>
    obtain ⟨rfl, outside⟩ := ends
    have next := byteLength_concat (c := '/') rfl front
    rw [literalEnd?_narrow rfl]
    simp [outside, next]
  | case6 inClass c rest alone escapes sameLine goesOn stays ih =>
    have unescaped : c ≠ '\\' := by
      rintro rfl
      cases rest with
      | nil => exact alone rfl rfl
      | cons d rest => exact escapes d rest rfl rfl
    have later := ih (front ++ [c])
    simp only [List.append_assoc] at later
    rw [literalEnd?_next unescaped sameLine goesOn, Option.map_map]
    exact later

end literals

section lookback
variable {front : Text} {c : Char} {b : UInt8} {back : List UInt8}

-- The character nearest to the end of a text that is not blank.
def lastSeen (front : Text) : Option Char := front.foldl seenBehind none

theorem lastSeen_concat (front : Text) (c : Char) : lastSeen (front ++ [c]) = seenBehind (lastSeen front) c :=
  List.foldl_append

theorem narrow_of_isAsciiBlank (blank : isAsciiBlank c = true) : isWide c = false := by
  simp only [isAsciiBlank, Bool.or_eq_true, beq_iff_eq] at blank
  rcases blank with (((rfl | rfl) | rfl) | rfl) | rfl <;> rfl

theorem narrow_of_opensLiteral (opens : opensLiteral c = true) : isWide c = false := by
  have narrow : ("(,=[:!&|?\x7b\x7d;".toList.all fun c => !isWide c) = true := rfl
  simpa using List.all_eq_true.mp narrow c (List.contains_iff_mem.mp opens)

-- A class whose characters take a single byte each has no wide one.
theorem outside_of_isWide {cls : Char → Bool} (narrow : cls c = true → isWide c = false) (wide : isWide c = true) :
    cls c = false := by
  rw [Bool.eq_false_iff]
  intro inside
  rw [narrow inside] at wide
  cases wide

theorem visible_of_isWide (wide : isWide c = true) : isAsciiBlank c = false :=
  outside_of_isWide narrow_of_isAsciiBlank wide

theorem opensNothing_of_isWide (wide : isWide c = true) : opensLiteral c = false :=
  outside_of_isWide narrow_of_opensLiteral wide

-- What stands nearest before a slash is told by the last byte that is not blank.
theorem find?_bytes (front : Text) :
    (((toBytes front).reverse.find? fun b => !isAsciiBlank (Char.ofUInt8 b)).all fun b =>
      opensLiteral (Char.ofUInt8 b)) = (lastSeen front).all opensLiteral := by
  induction front using List.reverseRecOn with
  | nil => rfl
  | append_singleton front c ih =>
    obtain ⟨first, others, encodes⟩ := exists_encodes c
    have split : toBytes (front ++ [c]) = toBytes front ++ (first :: others) := by
      simpa [toBytes] using encodes.split front []
    rw [split, List.reverse_append, List.find?_append, lastSeen_concat]
    cases wide : isWide c with
    | false =>
      obtain ⟨rfl, rfl⟩ := encodes.single wide
      rw [seenBehind, List.reverse_singleton, List.find?_singleton]
      cases blank : isAsciiBlank (Char.ofUInt8 first) with
      | true => simpa using ih
      | false => rfl
    | true =>
      -- None of the bytes is blank, and none of them opens a literal.
      have each : ∀ b ∈ (first :: others).reverse, isWide (Char.ofUInt8 b) = true := by
        intro b present
        rcases List.mem_cons.mp (List.mem_reverse.mp present) with rfl | present
        · exact encodes.wideFirst wide
        · exact encodes.wideOthers b present
      cases found : (first :: others).reverse.find? fun b => !isAsciiBlank (Char.ofUInt8 b) with
      | none =>
        have blank := List.find?_eq_none.mp found first (by simp)
        simp [visible_of_isWide (encodes.wideFirst wide)] at blank
      | some b =>
        have opensNothing := opensNothing_of_isWide (each b (List.mem_of_find?_eq_some found))
        simp [seenBehind, visible_of_isWide wide, opensNothing_of_isWide wide, opensNothing]

theorem opensAt_eq (front : Text) (bound : (toBytes front).length < (toBytes front ++ b :: back).length) :
    opensAt (toBytes front ++ b :: back) ⟨(toBytes front).length, bound⟩ = (lastSeen front).all opensLiteral := by
  rw [opensAt, List.take_left]
  exact find?_bytes front

end lookback
end StreamLinks.Bytewise
