import StreamLinks.Proofs.Script.Braces
/-!
Braces and their partners.

The depth counter of the search for a closing brace is told without a counter: the brace that it finds is the
first one behind a row of code in which every brace has its partner.
-/
namespace StreamLinks.Script

-- A row of characters in which every brace has its partner.
inductive Paired : List Char → Prop where
  | empty : Paired []
  | other (opening : c ≠ '{') (closing : c ≠ '}') (rest : Paired row) : Paired (c :: row)
  | braces (inside : Paired block) (rest : Paired row) : Paired ('{' :: (block ++ '}' :: row))

section rows
variable {places : List (Nat × Char)} {depth offset : Nat}

theorem closingBrace_open (depth offset : Nat) (places : List (Nat × Char)) :
    closingBrace depth ((offset, '{') :: places) = closingBrace (depth + 1) places := by
  rw [closingBrace, if_pos rfl]

theorem closingBrace_close (depth offset : Nat) (places : List (Nat × Char)) :
    closingBrace (depth + 2) ((offset, '}') :: places) = closingBrace (depth + 1) places := by
  rw [closingBrace, if_neg (by decide), if_pos rfl, if_neg (by omega)]
  rfl

theorem closingBrace_last (offset : Nat) (places : List (Nat × Char)) :
    closingBrace 1 ((offset, '}') :: places) = some offset := by
  rw [closingBrace, if_neg (by decide), if_pos rfl, if_pos (Nat.le_refl _)]

theorem closingBrace_other {c : Char} (opening : c ≠ '{') (closing : c ≠ '}') (depth offset : Nat)
    (places : List (Nat × Char)) :
    closingBrace depth ((offset, c) :: places) = closingBrace depth places := by
  rw [closingBrace, if_neg opening, if_neg closing]

-- A paired row leaves the depth as it was.
theorem closingBrace_paired {row : List Char} (paired : Paired row) (same : places.map (·.2) = row) (depth : Nat)
    (behind : List (Nat × Char)) : closingBrace (depth + 1) (places ++ behind) = closingBrace (depth + 1) behind := by
  induction paired generalizing places depth behind with
  | empty =>
    obtain rfl := List.map_eq_nil_iff.mp same
    rfl
  | other opening closing _ ih =>
    obtain ⟨⟨offset, c⟩, rest, rfl, rfl, later⟩ := List.map_eq_cons_iff.mp same
    rw [List.cons_append, closingBrace_other opening closing, ih later]
  | braces _ _ insideIh restIh =>
    obtain ⟨⟨offset, c⟩, _, rfl, rfl, later⟩ := List.map_eq_cons_iff.mp same
    obtain ⟨block, _, rfl, sameBlock, closed⟩ := List.map_eq_append_iff.mp later
    obtain ⟨⟨partner, d⟩, rest, rfl, rfl, sameRest⟩ := List.map_eq_cons_iff.mp closed
    rw [List.cons_append, closingBrace_open, List.append_assoc, insideIh sameBlock, List.cons_append,
      closingBrace_close, restIh sameRest]

-- A search that ends has passed a paired row up to the brace that takes it one level up.
theorem exists_paired (places : List (Nat × Char)) (depth : Nat) {found : Nat}
    (ends : closingBrace (depth + 1) places = some found) :
    ∃ row offset behind, places = row ++ (offset, '}') :: behind ∧ Paired (row.map (·.2)) ∧
      (depth = 0 → offset = found) ∧ (depth ≠ 0 → closingBrace depth behind = some found) := by
  cases places with
  | nil => cases ends
  | cons place rest =>
    obtain ⟨offset, c⟩ := place
    by_cases opening : c = '{'
    · subst opening
      -- The partner of this brace, and behind it the one of the brace around it.
      rw [closingBrace_open] at ends
      obtain ⟨block, partner, tail, rfl, inside, -, goesOn⟩ := exists_paired rest (depth + 1) ends
      obtain ⟨row, last, behind, rfl, paired, here, there⟩ := exists_paired tail depth (goesOn (by omega))
      refine ⟨(offset, '{') :: (block ++ (partner, '}') :: row), last, behind, by simp, ?_, here, there⟩
      simpa using Paired.braces inside paired
    · by_cases closing : c = '}'
      · subst closing
        refine ⟨[], offset, rest, rfl, .empty, ?_, ?_⟩
        · rintro rfl
          rw [closingBrace_last] at ends
          exact Option.some.inj ends
        · intro deeper
          obtain ⟨outer, rfl⟩ := Nat.exists_eq_succ_of_ne_zero deeper
          rwa [closingBrace_close] at ends
      · rw [closingBrace_other opening closing] at ends
        obtain ⟨row, last, behind, rfl, paired, here, there⟩ := exists_paired rest depth ends
        exact ⟨(offset, c) :: row, last, behind, rfl, .other opening closing paired, here, there⟩
termination_by places.length

theorem closingBrace_eq_some_iff : closingBrace 1 places = some offset ↔
    ∃ row behind, places = row ++ (offset, '}') :: behind ∧ Paired (row.map (·.2)) := by
  constructor
  · intro ends
    obtain ⟨row, last, behind, split, paired, here, -⟩ := exists_paired places 0 ends
    obtain rfl := here rfl
    exact ⟨row, behind, split, paired⟩
  · rintro ⟨row, behind, rfl, paired⟩
    rw [closingBrace_paired paired rfl, closingBrace_last]

end rows

section places
variable {text body behind : Text} {region : Region} {before : Option Char} {offset : Nat}

-- What the walk lists stands in the text at its offset.
theorem split_of_mem_codeFrom {place : Nat × Char} (present : place ∈ codeFrom region before offset text) :
    ∃ front back, text = front ++ place.2 :: back ∧ place.1 = offset + front.length := by
  induction text generalizing region before offset with
  | nil => cases present
  | cons c rest ih =>
    rw [codeFrom_cons] at present
    rcases List.mem_append.mp present with here | later
    · split at here
      · cases List.mem_singleton.mp here
        exact ⟨[], rest, rfl, rfl⟩
      · cases here
    · obtain ⟨front, back, rfl, same⟩ := ih later
      exact ⟨c :: front, back, rfl, by rw [same, List.length_cons]; omega⟩

-- The characters outside literals behind an opening brace.
def codeBehindBrace (text : Text) : List (Nat × Char) := codeFrom .code (some '{') 1 text

theorem matchingBrace_eq (text : Text) : matchingBrace ('{' :: text) = closingBrace 1 (codeBehindBrace text) := by
  rw [matchingBrace, code, codeFrom_cons]
  rfl

-- The brace behind the body is the partner of the one before it.
def Partners (body behind : Text) : Prop := ∃ row others,
  codeBehindBrace (body ++ '}' :: behind) = row ++ (body.length + 1, '}') :: others ∧ Paired (row.map (·.2))

theorem partners_iff : Partners body behind ↔
    matchingBrace ('{' :: (body ++ '}' :: behind)) = some (body.length + 1) := by
  rw [matchingBrace_eq, closingBrace_eq_some_iff]
  rfl

-- Every brace that is found is the partner of the first one.
theorem exists_partners {found : Nat} (closes : matchingBrace ('{' :: text) = some found) :
    ∃ body behind, text = body ++ '}' :: behind ∧ found = body.length + 1 ∧ Partners body behind := by
  rw [matchingBrace_eq, closingBrace_eq_some_iff] at closes
  obtain ⟨row, others, split, paired⟩ := closes
  have present : (found, '}') ∈ codeBehindBrace text := by simp [split]
  obtain ⟨body, behind, rfl, same⟩ := split_of_mem_codeFrom present
  rw [Nat.add_comm] at same
  dsimp only at same
  subst same
  exact ⟨body, behind, rfl, rfl, row, others, split, paired⟩

end places
end StreamLinks.Script
