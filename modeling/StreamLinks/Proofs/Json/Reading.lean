import Mathlib.Data.List.DropRight
import StreamLinks.Proofs.Json.Quoted
import StreamLinks.Proofs.Text.Numeral
/-!
Reading what is written for a value.

A text reads as a value when the reader takes exactly this text and stops, whatever follows. Each way to
write a value has such a law, in which blanks may stand where the reader passes over them; a printer
is right when all that it writes comes about by these laws.
-/
namespace StreamLinks.Json
variable {value : Value} {items : List Value} {members : List (Text × Value)}
  {text more rest : Text} {fuel : Nat}

attribute [grind =] valueFrom

-- What follows does not go on with a number.
def Ends (rest : Text) : Prop := ∀ c ∈ rest.head?, c.isDigit = false ∧ c ≠ '.' ∧ c ≠ 'e' ∧ c ≠ 'E'

theorem digitRun_append {digits : Text} (all : ∀ c ∈ digits, c.isDigit = true) (ends : Ends rest) :
    digitRun (digits ++ rest) = (digits, rest) := by
  rw [digitRun, List.takeWhile_append_of_pos all, List.dropWhile_append_of_pos all]
  cases rest with
  | nil => simp
  | cons c rest =>
    obtain ⟨other, -⟩ := ends c rfl
    simp [other]

theorem scaleFrom_ends (ends : Ends rest) : scaleFrom rest = some (none, rest) := by
  cases rest with
  | nil => rfl
  | cons c rest =>
    obtain ⟨-, point, small, capital⟩ := ends c rfl
    rw [scaleFrom.eq_def]
    simp [point, small, capital]

-- All digits are taken while their value fits in a word.
theorem appendDigits_fits {digits : Text} {value : Nat}
    (fits : Nat.ofDigitChars 10 digits value < wordBound) :
    appendDigits value digits = (Nat.ofDigitChars 10 digits value, digits.length) := by
  induction digits generalizing value with
  | nil => rfl
  | cons c digits ih =>
    rw [Nat.ofDigitChars_cons, Nat.mul_comm] at fits ⊢
    have next : value * 10 + (c.toNat - '0'.toNat) < wordBound := by
      rw [Nat.ofDigitChars_eq_ofDigitChars_zero] at fits
      have grows := Nat.le_mul_of_pos_left (value * 10 + (c.toNat - '0'.toNat))
        (Nat.pow_pos (n := digits.length) (show 0 < 10 by decide))
      omega
    simp only [appendDigits, if_pos next, ih fits, List.length_cons]

theorem numberFrom_ofNat {n : Nat} (fits : n < wordBound) (ends : Ends rest) :
    numberFrom (Text.ofNat n ++ rest) = some (.natural n, rest) := by
  have run := digitRun_append (fun c => Text.isDigit_of_mem_ofNat (n := n)) ends
  have value : Nat.ofDigitChars 10 (Text.ofNat n) 0 = n := Nat.ofDigitChars_ten_toDigits
  have taken : appendDigits 0 (Text.ofNat n) = (n, (Text.ofNat n).length) := by
    rw [appendDigits_fits (by rwa [value]), value]
  cases written : Text.ofNat n with
  | nil => exact absurd written (Text.ofNat_ne_nil n)
  | cons d digits =>
    have digit : d.isDigit = true := Text.isDigit_of_mem_ofNat (n := n) (by simp [written])
    have unsigned : d ≠ '-' := by
      rintro rfl
      cases digit
    have leading : d = '0' → digits = [] := by
      rintro rfl
      cases n with
      | zero => exact (List.cons.inj written).2.symm
      | succ n => exact absurd (congrArg List.head? written) (Text.head?_ofNat (Nat.succ_pos n))
    rw [written] at run taken
    rw [List.cons_append] at run ⊢
    simpa [numberFrom, unsigned, run, taken, scaleFrom_ends ends] using leading

-- Blanks in front of a part of a document are passed over.
theorem skipSpaces_append {blanks : Text} (blank : ∀ c ∈ blanks, isSpace c = true) (text : Text) :
    skipSpaces (blanks ++ text) = skipSpaces text := List.dropWhile_append_of_pos blank

theorem skipSpaces_cons {c : Char} (plain : isSpace c = false) (text : Text) :
    skipSpaces (c :: text) = c :: text := by simp [skipSpaces, plain]

theorem skipSpaces_idem (text : Text) : skipSpaces (skipSpaces text) = skipSpaces text :=
  List.dropWhile_idempotent isSpace text

theorem valueFrom_skipSpaces {text other : Text} (same : skipSpaces text = skipSpaces other)
    (fuel : Nat) : valueFrom fuel text = valueFrom fuel other := by
  cases fuel with
  | zero => grind
  | succ fuel => grind

-- Neither a blank nor a mark between the parts of a document goes on with a number.
theorem ends_of_mark {mark : Char} {close : Text} (closes : skipSpaces close = mark :: rest)
    (marks : mark = ',' ∨ mark = ']' ∨ mark = '}') : Ends close := by
  cases close with
  | nil => simp [Ends]
  | cons c close =>
    intro d first
    cases first
    cases space : isSpace c with
    | true =>
      have blanks : c = ' ' ∨ c = '\t' ∨ c = '\n' ∨ c = '\r' := by
        simpa [isSpace, or_assoc] using space
      rcases blanks with rfl | rfl | rfl | rfl <;> decide
    | false =>
      rw [skipSpaces_cons space] at closes
      cases closes
      rcases marks with rfl | rfl | rfl <;> decide

-- The reader takes the text for the value and stops behind it.
def Reads (value : Value) (text : Text) : Prop :=
  ∀ rest fuel, Ends rest → 2 * text.length ≤ fuel →
    valueFrom fuel (text ++ rest) = some (value, rest)

-- The same for the items of an array, up to and with its closing bracket.
def ReadsItems (items : List Value) (text : Text) : Prop :=
  ∀ close rest fuel, skipSpaces close = ']' :: rest → 2 * text.length < fuel →
    itemsFrom fuel (text ++ close) = some (items, rest)

def ReadsMembers (members : List (Text × Value)) (text : Text) : Prop :=
  ∀ close rest fuel, skipSpaces close = '}' :: rest → 2 * text.length < fuel →
    membersFrom fuel (text ++ close) = some (some members, rest)

theorem Reads.read (reads : Reads value text) : read text = some value := by
  have taken := reads [] (2 * text.length + 2) (by simp [Ends]) (by omega)
  rw [List.append_nil] at taken
  simp [Json.read, taken, skipSpaces]

-- A text that is not empty comes with fuel for one step.
theorem reads_of_step (filled : text ≠ [])
    (step : ∀ rest fuel, Ends rest → 2 * text.length ≤ fuel + 1 →
      valueFrom (fuel + 1) (text ++ rest) = some (value, rest)) : Reads value text := by
  intro rest fuel ends enough
  have positive := List.length_pos_iff.mpr filled
  cases fuel with
  | zero => omega
  | succ fuel => exact step rest fuel ends enough

theorem reads_string (text : Text) : Reads (.string text) (quote text) := by
  refine reads_of_step (by simp [quote]) ?_
  intro rest fuel _ _
  have taken := stringFrom_escaped text rest
  simp [valueFrom, quote, skipSpaces_cons, isSpace, taken]

theorem reads_null : Reads .null "null".toList := by
  refine reads_of_step (by decide) ?_
  intro rest fuel _ _
  simp [valueFrom, skipSpaces, isSpace, Text.after?]

theorem reads_true : Reads (.bool true) "true".toList := by
  refine reads_of_step (by decide) ?_
  intro rest fuel _ _
  simp [valueFrom, skipSpaces, isSpace, Text.after?]

theorem reads_false : Reads (.bool false) "false".toList := by
  refine reads_of_step (by decide) ?_
  intro rest fuel _ _
  simp [valueFrom, skipSpaces, isSpace, Text.after?]

theorem reads_natural {n : Nat} (fits : n < wordBound) :
    Reads (.number (.natural n)) (Text.ofNat n) := by
  refine reads_of_step (Text.ofNat_ne_nil n) ?_
  intro rest fuel ends _
  have taken := numberFrom_ofNat fits ends
  cases written : Text.ofNat n with
  | nil => exact absurd written (Text.ofNat_ne_nil n)
  | cons d digits =>
    have digit : d.isDigit = true := Text.isDigit_of_mem_ofNat (n := n) (by simp [written])
    -- A digit opens neither a text nor a list nor a word.
    have other (c : Char) (noDigit : c.isDigit = false) : d ≠ c := by
      rintro rfl
      cases noDigit.symm.trans digit
    have shown : isSpace d = false := by
      simp [isSpace, other]
    have noWord : 'n' ≠ d ∧ 't' ≠ d ∧ 'f' ≠ d :=
      ⟨(other 'n' rfl).symm, (other 't' rfl).symm, (other 'f' rfl).symm⟩
    rw [written, List.cons_append] at taken
    rw [List.cons_append, valueFrom, skipSpaces_cons shown]
    simp [Text.after?, other, noWord, taken]

theorem reads_emptyArray : Reads (.array []) "[]".toList := by
  refine reads_of_step (by decide) ?_
  intro rest fuel _ _
  simp [valueFrom, skipSpaces, isSpace]

theorem reads_emptyObject : Reads (.object []) ['{', '}'] := by
  refine reads_of_step (by decide) ?_
  intro rest fuel _ _
  simp [valueFrom, skipSpaces, isSpace]

theorem valueFrom_of_close {tail : Text} (closed : skipSpaces text = ']' :: tail) (fuel : Nat) :
    valueFrom fuel text = none := by
  cases fuel with
  | zero => rfl
  | succ fuel => simp [valueFrom, closed, Text.after?, numberFrom, digitRun]

-- What reads as items does not close the array right away.
theorem itemsFrom_opens (taken : itemsFrom fuel text = some (items, rest)) :
    itemsFrom fuel (skipSpaces text) = some (items, rest) ∧ ∀ tail, skipSpaces text ≠ ']' :: tail := by
  cases fuel with
  | zero => cases taken
  | succ fuel =>
    refine ⟨?_, ?_⟩
    · rw [← taken]
      simp only [itemsFrom, valueFrom_skipSpaces (skipSpaces_idem text)]
    · intro tail closed
      rw [itemsFrom, valueFrom_of_close closed] at taken
      cases taken

theorem membersFrom_opens {found : Option (List (Text × Value))}
    (taken : membersFrom fuel text = some (found, rest)) :
    membersFrom fuel (skipSpaces text) = some (found, rest) ∧ ∀ tail, skipSpaces text ≠ '}' :: tail := by
  cases fuel with
  | zero => cases taken
  | succ fuel =>
    refine ⟨?_, ?_⟩
    · rw [← taken]
      simp only [membersFrom, skipSpaces_idem]
    · intro tail closed
      simp only [membersFrom, closed] at taken
      cases taken

theorem reads_array (reads : ReadsItems items text) (blanks : Text)
    (blank : ∀ c ∈ blanks, isSpace c = true) :
    Reads (.array items) ('[' :: text ++ blanks ++ [']']) := by
  refine reads_of_step (by simp) ?_
  intro rest fuel ends enough
  have close : skipSpaces (blanks ++ ']' :: rest) = ']' :: rest := by
    rw [skipSpaces_append blank, skipSpaces_cons (by decide)]
  obtain ⟨taken, opened⟩ := itemsFrom_opens (reads _ _ fuel close (by simp at enough; omega))
  have shown : skipSpaces ('[' :: (text ++ (blanks ++ ']' :: rest))) =
      '[' :: (text ++ (blanks ++ ']' :: rest)) := skipSpaces_cons (by decide) _
  simp [valueFrom, shown, taken]

theorem reads_object (reads : ReadsMembers members text) (blanks : Text)
    (blank : ∀ c ∈ blanks, isSpace c = true) :
    Reads (.object members) ('{' :: text ++ blanks ++ ['}']) := by
  refine reads_of_step (by simp) ?_
  intro rest fuel ends enough
  have close : skipSpaces (blanks ++ '}' :: rest) = '}' :: rest := by
    rw [skipSpaces_append blank, skipSpaces_cons (by decide)]
  obtain ⟨taken, opened⟩ := membersFrom_opens (reads _ _ fuel close (by simp at enough; omega))
  have shown : skipSpaces ('{' :: (text ++ (blanks ++ '}' :: rest))) =
      '{' :: (text ++ (blanks ++ '}' :: rest)) := skipSpaces_cons (by decide) _
  simp [valueFrom, shown, taken]

theorem Reads.lastItem (reads : Reads value text) : ReadsItems [value] text := by
  intro close rest fuel closes enough
  cases fuel with
  | zero => cases enough
  | succ fuel =>
    have taken := reads close fuel (ends_of_mark closes (.inr (.inl rfl))) (by omega)
    simp only [itemsFrom, taken, closes]

theorem Reads.item (reads : Reads value text) (others : ReadsItems items more) :
    ReadsItems (value :: items) (text ++ ',' :: more) := by
  intro close rest fuel closes enough
  cases fuel with
  | zero => cases enough
  | succ fuel =>
    have mark : skipSpaces (',' :: (more ++ close)) = ',' :: (more ++ close) :=
      skipSpaces_cons (by decide) _
    rw [List.length_append, List.length_cons] at enough
    have taken := reads (',' :: (more ++ close)) fuel (ends_of_mark mark (.inl rfl)) (by omega)
    have behind := others close rest fuel closes (by omega)
    simp [itemsFrom, taken, mark, behind]

-- A name is read up to its colon, and then the value.
theorem membersFrom_last {behind tail : Text} (name : Text)
    (taken : valueFrom fuel behind = some (value, rest)) (closes : skipSpaces rest = '}' :: tail) :
    membersFrom (fuel + 1) (quote name ++ ':' :: behind) = some (some [(name, value)], tail) := by
  have named := stringFrom_escaped name (':' :: behind)
  simp [membersFrom, quote, skipSpaces_cons, isSpace, named, taken, closes]

theorem membersFrom_next {behind others tail : Text} (name : Text)
    (taken : valueFrom fuel behind = some (value, rest)) (mark : skipSpaces rest = ',' :: others)
    (more : membersFrom fuel others = some (some members, tail)) :
    membersFrom (fuel + 1) (quote name ++ ':' :: behind) =
      some (some ((name, value) :: members), tail) := by
  have named := stringFrom_escaped name (':' :: behind)
  simp [membersFrom, quote, skipSpaces_cons, isSpace, named, taken, mark, more]

theorem Reads.lastMember (reads : Reads value text) (name : Text) :
    ReadsMembers [(name, value)] (quote name ++ ':' :: text) := by
  intro close rest fuel closes enough
  cases fuel with
  | zero => cases enough
  | succ fuel =>
    rw [List.length_append, List.length_cons] at enough
    have taken := reads close fuel (ends_of_mark closes (.inr (.inr rfl))) (by omega)
    rw [List.append_assoc, List.cons_append]
    exact membersFrom_last name taken closes

theorem Reads.member (reads : Reads value text) (name : Text)
    (others : ReadsMembers members more) :
    ReadsMembers ((name, value) :: members) (quote name ++ ':' :: text ++ ',' :: more) := by
  intro close rest fuel closes enough
  cases fuel with
  | zero => cases enough
  | succ fuel =>
    have mark : skipSpaces (',' :: (more ++ close)) = ',' :: (more ++ close) :=
      skipSpaces_cons (by decide) _
    simp only [List.length_append, List.length_cons] at enough
    have taken := reads (',' :: (more ++ close)) fuel (ends_of_mark mark (.inl rfl)) (by omega)
    have behind := others close rest fuel closes (by omega)
    have front : quote name ++ ':' :: text ++ ',' :: more ++ close =
        quote name ++ ':' :: (text ++ ',' :: (more ++ close)) := by simp
    rw [front]
    exact membersFrom_next name taken mark behind

end StreamLinks.Json
