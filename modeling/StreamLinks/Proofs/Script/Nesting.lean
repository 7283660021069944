import StreamLinks.Script.Code
/-!
Brackets of three kinds and their nesting.

Nesting is told by the shape of a row and, on the way through it, by the brackets that are still to be closed.
The search for the semicolon that ends a statement only counts: all kinds together, and never below zero. So it
agrees with the nesting up to the bracket that closes the block around the statement, and no further.
-/
namespace StreamLinks.Script

-- The bracket that closes an opening one.
def partner? (c : Char) : Option Char :=
  if c = '{' then some '}' else if c = '[' then some ']' else if c = '(' then some ')' else none

def isClosing (c : Char) : Bool := "\x7d])".toList.contains c

-- A row of characters that closes no bracket that it did not open, and leaves none open.
inductive Balanced : List Char → Prop where
  | empty : Balanced []
  | other (opens : partner? c = none) (closes : isClosing c = false) (rest : Balanced row) : Balanced (c :: row)
  | brackets (pair : partner? opening = some closing) (inside : Balanced block) (rest : Balanced row) :
      Balanced (opening :: (block ++ closing :: row))

-- The row reaches the bracket that closes the block in which it begins.
def LeavesBlock (row : List Char) : Prop :=
  ∃ inside closing behind, row = inside ++ closing :: behind ∧ Balanced inside ∧ isClosing closing = true

-- The brackets that are still to be closed behind one more character, the innermost first.
def passBracket (awaited : List Char) (c : Char) : Option (List Char) :=
  match partner? c with
  | some closing => some (closing :: awaited)
  | none =>
    if isClosing c then if awaited.head? = some c then some awaited.tail else none else some awaited

def awaitedBehind (awaited : List Char) : List Char → Option (List Char)
  | [] => some awaited
  | c :: row => (passBracket awaited c).bind fun next => awaitedBehind next row

section brackets
variable {c opening closing : Char} {row front back awaited own next left : List Char}

theorem partner?_of_isClosing (closes : isClosing c = true) : partner? c = none := by
  have kinds : c = '}' ∨ c = ']' ∨ c = ')' := by simpa [isClosing] using closes
  rcases kinds with rfl | rfl | rfl <;> rfl

theorem partner?_cases (pair : partner? opening = some closing) :
    (opening = '{' ∧ closing = '}') ∨ (opening = '[' ∧ closing = ']') ∨ (opening = '(' ∧ closing = ')') := by
  unfold partner? at pair
  split at pair
  · next brace => exact .inl ⟨brace, (Option.some.inj pair).symm⟩
  · split at pair
    · next square => exact .inr (.inl ⟨square, (Option.some.inj pair).symm⟩)
    · split at pair
      · next round => exact .inr (.inr ⟨round, (Option.some.inj pair).symm⟩)
      · cases pair

theorem isClosing_of_partner? (pair : partner? opening = some closing) : isClosing closing = true := by
  obtain ⟨-, rfl⟩ | ⟨-, rfl⟩ | ⟨-, rfl⟩ := partner?_cases pair <;> rfl

theorem passBracket_opening (pair : partner? opening = some closing) :
    passBracket awaited opening = some (closing :: awaited) := by
  rw [passBracket, pair]

theorem passBracket_closing (closes : isClosing c = true) :
    passBracket awaited c = if awaited.head? = some c then some awaited.tail else none := by
  rw [passBracket, partner?_of_isClosing closes]
  exact if_pos closes

theorem passBracket_other (opens : partner? c = none) (closes : isClosing c = false) :
    passBracket awaited c = some awaited := by
  rw [passBracket, opens]
  simp [closes]

-- A bracket is opened, or the innermost one is closed, or the character is none.
theorem passBracket_cases (passed : passBracket awaited c = some next) :
    (∃ closing, partner? c = some closing ∧ next = closing :: awaited) ∨
      (isClosing c = true ∧ awaited = c :: next) ∨
      (partner? c = none ∧ isClosing c = false ∧ next = awaited) := by
  cases opens : partner? c with
  | some closing =>
    rw [passBracket_opening opens] at passed
    exact .inl ⟨closing, rfl, (Option.some.inj passed).symm⟩
  | none =>
    cases closes : isClosing c with
    | false =>
      rw [passBracket_other opens closes] at passed
      exact .inr (.inr ⟨rfl, rfl, (Option.some.inj passed).symm⟩)
    | true =>
      rw [passBracket_closing closes] at passed
      split at passed
      · next innermost =>
        obtain ⟨others, rfl⟩ := List.head?_eq_some_iff.mp innermost
        cases passed
        exact .inr (.inl ⟨rfl, rfl⟩)
      · cases passed

theorem awaitedBehind_append (awaited front back : List Char) :
    awaitedBehind awaited (front ++ back) = (awaitedBehind awaited front).bind (awaitedBehind · back) := by
  induction front generalizing awaited with
  | nil => rfl
  | cons c front ih =>
    simp only [List.cons_append, awaitedBehind, Option.bind_assoc, ih]

theorem awaitedBehind_cons (passed : passBracket awaited c = some next) :
    awaitedBehind awaited (c :: row) = awaitedBehind next row := by
  rw [awaitedBehind, passed, Option.bind_some]

-- A balanced row leaves what is awaited as it was.
theorem Balanced.awaitedBehind (balanced : Balanced row) (awaited : List Char) :
    Script.awaitedBehind awaited row = some awaited := by
  induction balanced generalizing awaited with
  | empty => rfl
  | other opens closes _ ih => rw [awaitedBehind_cons (passBracket_other opens closes), ih]
  | @brackets opening closing block row pair _ _ insideIh restIh =>
    have closed : passBracket (closing :: awaited) closing = some awaited := by
      rw [passBracket_closing (isClosing_of_partner? pair), List.head?_cons, if_pos rfl, List.tail_cons]
    rw [awaitedBehind_cons (passBracket_opening pair), awaitedBehind_append, insideIh, Option.bind_some,
      awaitedBehind_cons closed, restIh]

-- Where the innermost bracket is closed in the end, a balanced block stands before the one that closes it.
theorem exists_block (row awaited : List Char) {top : Char} (ends : awaitedBehind (top :: awaited) row = some left)
    (closed : left.length ≤ awaited.length) :
    ∃ block rest, row = block ++ top :: rest ∧ Balanced block ∧ awaitedBehind awaited rest = some left := by
  cases row with
  | nil =>
    cases ends
    exact absurd closed (Nat.not_succ_le_self _)
  | cons c row =>
    obtain ⟨next, passed, ends⟩ := Option.bind_eq_some_iff.mp ends
    rcases passBracket_cases passed with ⟨closing, pair, rfl⟩ | ⟨closes, same⟩ | ⟨opens, closes, rfl⟩
    · -- The block that is opened here, and behind it the rest of the one around it.
      obtain ⟨block, behind, rfl, inside, ends⟩ := exists_block row _ ends (Nat.le_succ_of_le closed)
      obtain ⟨others, rest, rfl, balanced, ends⟩ := exists_block behind _ ends closed
      exact ⟨c :: (block ++ closing :: others), rest, by simp, .brackets pair inside balanced, ends⟩
    · obtain ⟨rfl, rfl⟩ := List.cons.inj same
      exact ⟨[], row, rfl, .empty, ends⟩
    · obtain ⟨block, rest, rfl, inside, ends⟩ := exists_block row _ ends closed
      exact ⟨c :: block, rest, rfl, .other opens closes inside, ends⟩
termination_by row.length
decreasing_by all_goals simp_all <;> omega

theorem balanced_of_awaitedBehind (row : List Char) (ends : awaitedBehind [] row = some []) : Balanced row := by
  cases row with
  | nil => exact .empty
  | cons c row =>
    obtain ⟨next, passed, ends⟩ := Option.bind_eq_some_iff.mp ends
    rcases passBracket_cases passed with ⟨closing, pair, rfl⟩ | ⟨closes, same⟩ | ⟨opens, closes, rfl⟩
    · obtain ⟨block, rest, rfl, inside, ends⟩ := exists_block row _ ends (Nat.le_refl 0)
      exact .brackets pair inside (balanced_of_awaitedBehind rest ends)
    · cases same
    · exact .other opens closes (balanced_of_awaitedBehind row ends)
termination_by row.length
decreasing_by all_goals simp_all <;> omega

theorem balanced_iff : Balanced row ↔ awaitedBehind [] row = some [] :=
  ⟨fun balanced => balanced.awaitedBehind [], balanced_of_awaitedBehind row⟩

instance : DecidablePred Balanced := fun _ => decidable_of_iff _ balanced_iff.symm

theorem Balanced.stays (balanced : Balanced row) : ¬ LeavesBlock row := by
  rintro ⟨inside, closing, behind, rfl, balancedInside, closes⟩
  have ends := balanced.awaitedBehind []
  rw [awaitedBehind_append, balancedInside.awaitedBehind, Option.bind_some, Script.awaitedBehind,
    passBracket_closing closes] at ends
  cases ends

-- A part of a nested row either closes only what it opened itself, or leaves its block.
theorem awaitedBehind_or_leaves (row : List Char) (passed : awaitedBehind (own ++ awaited) row = some left) :
    (∃ others, awaitedBehind own row = some others) ∨ ∃ inside closing behind,
      row = inside ++ closing :: behind ∧ awaitedBehind own inside = some [] ∧ isClosing closing = true := by
  induction row generalizing own with
  | nil => exact .inl ⟨own, rfl⟩
  | cons c row ih =>
    obtain ⟨next, step, rest⟩ := Option.bind_eq_some_iff.mp passed
    -- What holds of the rest holds of the row, once the first character is passed without the brackets around.
    have later {inner : List Char} (rest : awaitedBehind (inner ++ awaited) row = some left)
        (here : passBracket own c = some inner) : (∃ others, awaitedBehind own (c :: row) = some others) ∨
          ∃ inside closing behind, c :: row = inside ++ closing :: behind ∧
            awaitedBehind own inside = some [] ∧ isClosing closing = true := by
      rcases ih rest with ⟨others, same⟩ | ⟨inside, closing, behind, rfl, ends, closes⟩
      · exact .inl ⟨others, by rw [awaitedBehind_cons here, same]⟩
      · exact .inr ⟨c :: inside, closing, behind, rfl, by rw [awaitedBehind_cons here, ends], closes⟩
    rcases passBracket_cases step with ⟨closing, pair, rfl⟩ | ⟨closes, same⟩ | ⟨opens, closes, rfl⟩
    · exact later rest (passBracket_opening pair)
    · cases own with
      | nil => exact .inr ⟨[], c, row, rfl, rfl, closes⟩
      | cons top own =>
        obtain ⟨rfl, rfl⟩ := List.cons.inj same
        refine later rest ?_
        rw [passBracket_closing closes, List.head?_cons, if_pos rfl, List.tail_cons]
    · exact later rest (passBracket_other opens closes)

theorem exists_awaited (passed : awaitedBehind awaited (front ++ back) = some left) :
    ∃ between, awaitedBehind awaited front = some between ∧ awaitedBehind between back = some left := by
  rw [awaitedBehind_append] at passed
  exact Option.bind_eq_some_iff.mp passed

-- A part of a nested row at whose end nothing is awaited that the part opened is nested itself, unless it leaves
-- its block.
theorem balanced_part_iff (passed : awaitedBehind awaited (row ++ back) = some left)
    (closed : ∀ others, awaitedBehind [] row = some others → others = []) :
    Balanced row ↔ ¬ LeavesBlock row := by
  refine ⟨Balanced.stays, ?_⟩
  intro stays
  obtain ⟨between, passedRow, -⟩ := exists_awaited passed
  rcases awaitedBehind_or_leaves row (show awaitedBehind ([] ++ awaited) row = some _ from passedRow) with
    ⟨others, same⟩ | ⟨inside, closing, behind, rfl, ends, closes⟩
  · obtain rfl := closed others same
    exact balanced_of_awaitedBehind row same
  · exact absurd ⟨inside, closing, behind, rfl, balanced_of_awaitedBehind inside ends, closes⟩ stays

end brackets

section semicolons
variable {places : List (Nat × Char)} {depth offset : Nat}

theorem opens_iff {c : Char} : (c = '{' ∨ c = '[' ∨ c = '(') ↔ ∃ closing, partner? c = some closing := by
  unfold partner?
  split
  · simp_all
  · split
    · simp_all
    · split <;> simp_all

theorem isClosing_iff {c : Char} : isClosing c = true ↔ c = '}' ∨ c = ']' ∨ c = ')' := by simp [isClosing]

-- How many brackets are to be closed behind a character, told the way the search for a semicolon counts.
theorem length_passBracket {c : Char} {own inner : List Char} (passed : passBracket own c = some inner) :
    inner.length = if c = '{' ∨ c = '[' ∨ c = '(' then own.length + 1
      else if c = '}' ∨ c = ']' ∨ c = ')' then own.length - 1 else own.length := by
  have unopened (opens : partner? c = none) : ¬(c = '{' ∨ c = '[' ∨ c = '(') := by
    rw [opens_iff, opens]
    exact fun ⟨_, pair⟩ => nomatch pair
  rcases passBracket_cases passed with ⟨closing, pair, rfl⟩ | ⟨closes, rfl⟩ | ⟨opens, closes, rfl⟩
  · rw [if_pos (opens_iff.mpr ⟨closing, pair⟩), List.length_cons]
  · rw [if_neg (unopened (partner?_of_isClosing closes)), if_pos (isClosing_iff.mp closes), List.length_cons]
    exact (Nat.add_sub_cancel _ 1).symm
  · have unclosed : ¬(c = '}' ∨ c = ']' ∨ c = ')') := by
      rw [← isClosing_iff, closes]
      exact Bool.false_ne_true
    rw [if_neg (unopened opens), if_neg unclosed]

-- Up to the semicolon that is found, the count is the number of brackets that are still to be closed.
theorem closingSemicolon_split (found : closingSemicolon depth places = some offset) :
    ∃ listed behind, places = listed ++ (offset, ';') :: behind ∧
      ∀ own left, own.length = depth → awaitedBehind own (listed.map (·.2)) = some left → left = [] := by
  induction places generalizing depth with
  | nil => cases found
  | cons place places ih =>
    obtain ⟨here, c⟩ := place
    -- The count goes with what is awaited behind the first character.
    have later {next : Nat} (found : closingSemicolon next places = some offset)
        (counts : ∀ own inner, own.length = depth → passBracket own c = some inner → inner.length = next) :
        ∃ listed behind, (here, c) :: places = listed ++ (offset, ';') :: behind ∧
          ∀ own left, own.length = depth → awaitedBehind own (listed.map (·.2)) = some left → left = [] := by
      obtain ⟨listed, behind, rfl, empty⟩ := ih found
      refine ⟨(here, c) :: listed, behind, rfl, ?_⟩
      intro own left length passed
      obtain ⟨inner, step, rest⟩ := Option.bind_eq_some_iff.mp passed
      exact empty inner left (counts own inner length step) rest
    simp only [closingSemicolon] at found
    split at found
    · next opens =>
      refine later found fun own inner length step => ?_
      rw [length_passBracket step, if_pos opens, length]
    · next noOpening =>
      split at found
      · next closes =>
        refine later found fun own inner length step => ?_
        rw [length_passBracket step, if_neg noOpening, if_pos closes, length]
      · next noClosing =>
        split at found
        · next ending =>
          obtain ⟨rfl, rfl⟩ := ending
          cases found
          refine ⟨[], places, rfl, ?_⟩
          rintro own left length passed
          cases passed
          exact List.length_eq_zero_iff.mp length
        · refine later found fun own inner length step => ?_
          rw [length_passBracket step, if_neg noOpening, if_neg noClosing, length]

end semicolons
end StreamLinks.Script
