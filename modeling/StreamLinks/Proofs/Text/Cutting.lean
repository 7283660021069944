import Mathlib.Data.List.Infix
import StreamLinks.Proofs.Text.Splitting
/-!
The first occurrence of a mark.

A cut is made at the first occurrence, and where that is depends only on the text up to its end. So the
place stays when something else follows, and the first of several replacements is made there.
-/
namespace StreamLinks.Text

variable {mark text head rest : Text}

theorem after?_eq_none : after? mark text = none ↔ ¬ mark <+: text := by
  constructor
  · rintro missing ⟨rest, rfl⟩
    rw [after?_append] at missing
    cases missing
  · intro absent
    cases found : after? mark text with
    | none => rfl
    | some rest => exact absurd ⟨rest, (eq_append_of_after? found).symm⟩ absent

theorem cut_eq_none : cut mark text = none ↔ ¬ mark <:+: text := by
  induction text with
  | nil => simp [cut]
  | cons c text ih =>
    rw [List.infix_cons_iff, cut]
    cases here : after? mark (c :: text) with
    | some behind =>
      have occurs : mark <+: c :: text := ⟨behind, (eq_append_of_after? here).symm⟩
      simp [occurs]
    | none => simp [ih, after?_eq_none.mp here]

theorem length_le_of_cut (first : cut mark text = some (head, rest)) {front back : Text}
    (occurs : text = front ++ mark ++ back) : head.length ≤ front.length := by
  induction text generalizing head front with
  | nil =>
    have empty := cut_append first
    simp only [List.nil_eq, List.append_eq_nil_iff] at empty
    simp [empty]
  | cons c text ih =>
    simp only [cut] at first
    cases here : after? mark (c :: text) with
    | some behind =>
      rw [here] at first
      cases first
      exact Nat.zero_le _
    | none =>
      rw [here] at first
      obtain ⟨⟨before, behind⟩, found, same⟩ := Option.map_eq_some_iff.mp first
      cases same
      cases front with
      | nil => exact absurd ⟨back, occurs.symm⟩ (after?_eq_none.mp here)
      | cons d front =>
        cases occurs
        exact Nat.succ_le_succ (ih found rfl)

-- A cut is made at the first occurrence of the mark.
theorem cut_eq_some : cut mark text = some (head, rest) ↔
    text = head ++ mark ++ rest ∧
      ∀ front back, text = front ++ mark ++ back → head.length ≤ front.length := by
  constructor
  · intro first
    exact ⟨cut_append first, fun front back occurs => length_le_of_cut first occurs⟩
  · rintro ⟨split, least⟩
    cases found : cut mark text with
    | none => exact absurd ⟨head, rest, split.symm⟩ (cut_eq_none.mp found)
    | some parts =>
      obtain ⟨before, behind⟩ := parts
      have same : before.length = head.length :=
        Nat.le_antisymm (length_le_of_cut found split) (least before behind (cut_append found))
      have both := (cut_append found).symm.trans split
      rw [List.append_assoc, List.append_assoc] at both
      obtain ⟨rfl, tails⟩ := List.append_inj both same
      rw [List.append_cancel_left tails]

-- Whatever else stands behind the mark, it does not occur any earlier: an earlier occurrence would end
-- before this one does.
theorem cut_of_cut (first : cut mark text = some (head, rest)) (other : Text) :
    cut mark (head ++ mark ++ other) = some (head, other) := by
  refine cut_eq_some.2 ⟨rfl, ?_⟩
  intro front back occurs
  by_contra earlier
  have within : front ++ mark <+: head ++ mark := by
    apply List.prefix_of_prefix_length_le ⟨back, occurs.symm⟩ (List.prefix_append _ other)
    simp only [List.length_append]
    omega
  obtain ⟨between, whole⟩ := within
  have occursInText : text = front ++ mark ++ (between ++ rest) := by
    rw [cut_append first, ← whole, List.append_assoc]
  exact earlier (length_le_of_cut first occursInText)

theorem cut_append_right (first : cut mark text = some (head, rest)) (more : Text) :
    cut mark (text ++ more) = some (head, rest ++ more) := by
  rw [cut_append first, List.append_assoc]
  exact cut_of_cut first (rest ++ more)

-- A longer mark first occurs where a shorter one does, if it occurs there at all.
theorem cut_longer {extra : Text} (first : cut mark text = some (head, extra ++ rest)) :
    cut (mark ++ extra) text = some (head, rest) := by
  refine cut_eq_some.2 ⟨?_, ?_⟩
  · simpa using cut_append first
  · intro front back occurs
    have shorter : text = front ++ mark ++ (extra ++ back) := by simpa using occurs
    exact length_le_of_cut first shorter

-- A mark whose first character does not come again in it cannot begin before that character and end
-- behind it.
theorem cut_append_left {m : Char} (once : m ∉ mark) (absent : cut (m :: mark) text = none)
    (more : Text) :
    cut (m :: mark) (text ++ m :: more) =
      (cut (m :: mark) (m :: more)).map fun (head, rest) => (text ++ head, rest) := by
  induction text with
  | nil => simp
  | cons c text ih =>
    rw [cut_eq_none, List.infix_cons_iff, not_or] at absent
    obtain ⟨notHere, notLater⟩ := absent
    have nothing : after? (m :: mark) (c :: (text ++ m :: more)) = none := by
      rw [after?_eq_none]
      rintro ⟨back, occurs⟩
      obtain ⟨rfl, tails⟩ := List.cons.inj occurs
      rcases List.append_eq_append_iff.mp tails with ⟨between, whole, -⟩ | ⟨between, rfl, tail⟩
      · exact notHere ⟨between, by rw [whole, List.cons_append]⟩
      · cases between with
        | nil => exact notHere (by simp)
        | cons d between =>
          cases tail
          exact once (by simp)
    rw [List.cons_append, cut, nothing, ih (cut_eq_none.mpr notLater), Option.map_map]
    rfl

theorem cut_char_eq_none {sep : Char} : cut [sep] text = none ↔ sep ∉ text := by
  rw [cut_eq_none, List.singleton_infix_iff]

theorem not_mem_of_cut_char {sep : Char} (first : cut [sep] text = some (head, rest)) : sep ∉ head := by
  intro present
  obtain ⟨front, back, rfl⟩ := List.append_of_mem present
  have occurs : text = front ++ [sep] ++ (back ++ [sep] ++ rest) := by simpa using cut_append first
  have earlier := length_le_of_cut first occurs
  simp only [List.length_append, List.length_cons] at earlier
  omega

-- A mark without the character ends before it or begins behind it.
theorem beside {sep : Char} {front back left right : Text} (absent : sep ∉ mark)
    (same : front ++ (mark ++ back) = left ++ sep :: right) :
    (∃ more, left = front ++ (mark ++ more)) ∨ ∃ more, front = left ++ sep :: more := by
  rcases List.append_eq_append_iff.mp same with ⟨between, rfl, behind⟩ | ⟨between, rfl, behind⟩
  · rcases List.append_eq_append_iff.mp behind with ⟨more, rfl, -⟩ | ⟨more, whole, tail⟩
    · exact .inl ⟨more, rfl⟩
    · cases more with
      | nil => exact .inl ⟨[], by rw [whole, List.append_nil, List.append_nil]⟩
      | cons c more =>
        obtain ⟨rfl, -⟩ := List.cons.inj tail
        exact absurd (whole ▸ List.mem_append_right between List.mem_cons_self) absent
  · cases between with
    | nil =>
      cases mark with
      | nil => exact .inl ⟨[], by simp⟩
      | cons c mark =>
        obtain ⟨rfl, -⟩ := List.cons.inj behind
        exact absurd List.mem_cons_self absent
    | cons c between =>
      obtain ⟨rfl, -⟩ := List.cons.inj behind
      exact .inr ⟨between, rfl⟩

theorem infix_beside {sep : Char} {left right : Text} (absent : sep ∉ mark)
    (occurs : mark <:+: left ++ sep :: right) : mark <:+: left ∨ mark <:+: right := by
  obtain ⟨front, back, same⟩ := occurs
  rw [List.append_assoc] at same
  rcases beside absent same with ⟨more, rfl⟩ | ⟨more, rfl⟩
  · exact .inl ⟨front, more, List.append_assoc _ _ _⟩
  · rw [List.append_assoc, List.cons_append] at same
    obtain ⟨-, rfl⟩ := List.cons.inj (List.append_cancel_left same)
    exact .inr ⟨more, back, List.append_assoc _ _ _⟩

theorem splitFrom_skip (mark skipped rest : Text) :
    splitFrom mark skipped.length (skipped ++ rest) = splitFrom mark 0 rest := by
  induction skipped with
  | nil => rfl
  | cons c skipped ih => simpa [splitFrom] using ih

theorem splitOn_of_cut (filled : mark ≠ []) (first : cut mark text = some (head, rest)) :
    splitOn mark text = head :: splitOn mark rest := by
  unfold splitOn
  induction text generalizing head with
  | nil => simp [cut, filled] at first
  | cons c text ih =>
    simp only [cut] at first
    cases here : after? mark (c :: text) with
    | some behind =>
      rw [here] at first
      cases first
      have whole := eq_append_of_after? here
      cases mark with
      | nil => exact absurd rfl filled
      | cons m mark =>
        obtain ⟨rfl, rfl⟩ := List.cons.inj whole
        have skipped := splitFrom_skip (c :: mark) mark rest
        rw [splitFrom, startsWith, here]
        exact congrArg ([] :: ·) skipped
    | none =>
      rw [here] at first
      obtain ⟨⟨front, back⟩, found, same⟩ := Option.map_eq_some_iff.mp first
      cases same
      simp [splitFrom, startsWith, here, ih found, consPiece]

theorem replaceAll_of_cut {new : Text} (filled : mark ≠ []) (first : cut mark text = some (head, rest)) :
    replaceAll mark new text = head ++ new ++ replaceAll mark new rest := by
  rw [replaceAll, splitOn_of_cut filled first]
  exact join_cons new head (splitFrom_ne_nil mark 0 rest)

theorem splitOn_of_absent (absent : ¬ mark <:+: text) : splitOn mark text = [text] := by
  unfold splitOn
  induction text with
  | nil => rfl
  | cons c text ih =>
    rw [List.infix_cons_iff, not_or] at absent
    obtain ⟨notHere, notLater⟩ := absent
    have nothing : startsWith mark (c :: text) = false := by
      rw [startsWith, after?_eq_none.mpr notHere]
      rfl
    rw [splitFrom, nothing, if_neg Bool.false_ne_true, ih notLater]
    rfl

-- A mark whose first character does not come again in it is found where it was put.
theorem cut_of_absent {m : Char} {piece : Text} (once : m ∉ mark) (absent : ¬ m :: mark <:+: piece) (rest : Text) :
    cut (m :: mark) (piece ++ (m :: mark) ++ rest) = some (piece, rest) := by
  have here : cut (m :: mark) (m :: (mark ++ rest)) = some ([], rest) :=
    cut_eq_some.2 ⟨rfl, fun _ _ _ => Nat.zero_le _⟩
  have behind := cut_append_left once (cut_eq_none.mpr absent) (mark ++ rest)
  rw [List.append_assoc, List.cons_append, behind, here]
  simp

-- Splitting undoes joining, if the mark only occurs where it was put.
theorem splitOn_join {m : Char} (once : m ∉ mark) {first : Text} {others : List Text}
    (absent : ∀ piece ∈ first :: others, ¬ m :: mark <:+: piece) :
    splitOn (m :: mark) (join (m :: mark) (first :: others)) = first :: others := by
  induction others generalizing first with
  | nil => exact splitOn_of_absent (absent first List.mem_cons_self)
  | cons next others ih =>
    obtain ⟨absentFirst, absentOthers⟩ := List.forall_mem_cons.mp absent
    rw [join_cons _ _ (List.cons_ne_nil next others),
      splitOn_of_cut (List.cons_ne_nil m mark) (cut_of_absent once absentFirst _), ih absentOthers]

end StreamLinks.Text
