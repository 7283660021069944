import StreamLinks.Proofs.Search.Ways
/-!
What searches find.

Every match is a way of the pattern from a place in the text, and a search finds a match as soon as
there is a way from any place. So a text in which all ways agree has one answer, wherever the leftmost
of them stands.
-/
namespace StreamLinks.Pattern
variable {α β : Type} {p : Pattern α} {text read rest : Text}

theorem firstFrom_eq_head? (p : Pattern α) (offset : Nat) (before : Option Char) (text : Text) :
    firstFrom p offset before text = (matchesFrom p offset before text).head? := by
  induction text generalizing offset before with
  | nil => rfl
  | cons c text ih =>
    simp only [firstFrom, matchesFrom]
    cases p ⟨offset, before, c :: text⟩ with
    | nil => exact ih _ _
    | cons way others => rfl

-- The leftmost match is the first of the matches everywhere.
theorem first?_eq_head? (p : Pattern α) (text : Text) :
    first? p text = (everywhere p text).head? := firstFrom_eq_head? p 0 none text

theorem way_of_mem_matchesFrom {found : Match α}
    (present : found ∈ matchesFrom p read.length read.getLast? rest) :
    ∃ passed tail, rest = passed ++ tail ∧ found.start = (read ++ passed).length ∧
      (found.value, found.stop) ∈ p (.after (read ++ passed) tail) := by
  induction rest generalizing read with
  | nil => cases present
  | cons c rest ih =>
    have next : matchesFrom p (read.length + 1) (some c) rest =
        matchesFrom p (read ++ [c]).length (read ++ [c]).getLast? rest := by simp
    have later (behind : found ∈ matchesFrom p (read.length + 1) (some c) rest) :
        ∃ passed tail, c :: rest = passed ++ tail ∧ found.start = (read ++ passed).length ∧
          (found.value, found.stop) ∈ p (.after (read ++ passed) tail) := by
      rw [next] at behind
      obtain ⟨passed, tail, rfl, starts, way⟩ := ih behind
      exact ⟨c :: passed, tail, rfl, by simpa using starts, by simpa using way⟩
    simp only [matchesFrom] at present
    cases ways : p ⟨read.length, read.getLast?, c :: rest⟩ with
    | nil =>
      rw [ways] at present
      exact later present
    | cons way others =>
      rw [ways] at present
      rcases List.mem_cons.mp present with rfl | behind
      · refine ⟨[], c :: rest, rfl, by simp, ?_⟩
        simp [Cursor.after, ways]
      · exact later behind

theorem way_of_mem_everywhere {found : Match α} (present : found ∈ everywhere p text) :
    ∃ passed tail, text = passed ++ tail ∧ found.start = passed.length ∧
      (found.value, found.stop) ∈ p (.after passed tail) :=
  @way_of_mem_matchesFrom _ p [] text found present

theorem matchesFrom_ne_nil {passed tail : Text} {way : α × Cursor} (more : tail ≠ [])
    (present : way ∈ p (.after (read ++ passed) tail)) :
    matchesFrom p read.length read.getLast? (passed ++ tail) ≠ [] := by
  induction passed generalizing read with
  | nil =>
    cases tail with
    | nil => exact absurd rfl more
    | cons c tail =>
      rw [List.append_nil] at present
      have ways : p ⟨read.length, read.getLast?, c :: tail⟩ ≠ [] := List.ne_nil_of_mem present
      simp only [List.nil_append, matchesFrom]
      cases found : p ⟨read.length, read.getLast?, c :: tail⟩ with
      | nil => exact absurd found ways
      | cons first others => exact List.cons_ne_nil _ _
  | cons c passed ih =>
    have next : matchesFrom p (read.length + 1) (some c) (passed ++ tail) =
        matchesFrom p (read ++ [c]).length (read ++ [c]).getLast? (passed ++ tail) := by simp
    simp only [List.cons_append, matchesFrom]
    split
    · exact List.cons_ne_nil _ _
    · rw [next]
      exact ih (by simpa using present)

theorem everywhere_ne_nil {passed tail : Text} {way : α × Cursor} (more : tail ≠ [])
    (present : way ∈ p (.after passed tail)) : everywhere p (passed ++ tail) ≠ [] :=
  @matchesFrom_ne_nil _ p [] passed tail way more present

theorem first?_eq_none
    (noWay : ∀ passed tail, text = passed ++ tail → ∀ way, way ∉ p (.after passed tail)) :
    first? p text = none := by
  rw [first?_eq_head?, List.head?_eq_none_iff, List.eq_nil_iff_forall_not_mem]
  intro found present
  obtain ⟨passed, tail, split, -, way⟩ := way_of_mem_everywhere present
  exact noWay passed tail split _ way

-- A match that there is, with what all ways have in common.
theorem first?_of_way {Common : α → Cursor → Prop}
    (common : ∀ passed tail, text = passed ++ tail → ∀ value stop,
      (value, stop) ∈ p (.after passed tail) → Common value stop)
    {passed tail : Text} {way : α × Cursor} (split : text = passed ++ tail) (more : tail ≠ [])
    (present : way ∈ p (.after passed tail)) :
    ∃ found, first? p text = some found ∧ Common found.value found.stop := by
  have matches_ne_nil := everywhere_ne_nil more present
  rw [← split] at matches_ne_nil
  obtain ⟨found, others, all⟩ := List.exists_cons_of_ne_nil matches_ne_nil
  have inMatches : found ∈ everywhere p text := by simp [all]
  obtain ⟨before, behind, splitHere, -, here⟩ := way_of_mem_everywhere inMatches
  exact ⟨found, by rw [first?_eq_head?, all, List.head?_cons], common before behind splitHere _ _ here⟩

-- A way from the very start is found before all others.
theorem first?_of_start {Common : α → Cursor → Prop}
    (common : ∀ value stop, (value, stop) ∈ p (.after [] text) → Common value stop)
    (more : text ≠ []) {way : α × Cursor} (present : way ∈ p (.after [] text)) :
    ∃ found, first? p text = some found ∧ Common found.value found.stop := by
  obtain ⟨c, rest, rfl⟩ := List.exists_cons_of_ne_nil more
  obtain ⟨first, others, ways⟩ := List.exists_cons_of_ne_nil (List.ne_nil_of_mem present)
  have here : p ⟨0, none, c :: rest⟩ = first :: others := ways
  refine ⟨⟨0, first.2, first.1⟩, ?_, ?_⟩
  · rw [first?, firstFrom, here]
  · exact common _ _ (ways ▸ List.mem_cons_self)

-- Matches that do not overlap begin with the leftmost one.
theorem head?_all (p : Pattern α) (text : Text) : (all p text).head? = first? p text := by
  rw [first?_eq_head?, all]
  cases everywhere p text <;> simp [apart]

theorem findSome?_all {choose : Match α → Option β} {found : Match α} {value : β}
    (first : first? p text = some found) (chosen : choose found = some value) :
    (all p text).findSome? choose = some value := by
  rw [← head?_all, List.head?_eq_some_iff] at first
  obtain ⟨others, all⟩ := first
  rw [all, List.findSome?_cons, chosen]

theorem way_of_whole? {value : α} (found : whole? p text = some value) :
    ∃ stop, (value, stop) ∈ p (.after [] text) ∧ stop.rest = [] := by
  obtain ⟨way, first, rfl⟩ := Option.map_eq_some_iff.mp found
  exact ⟨way.2, List.mem_of_find?_eq_some first, by simpa using List.find?_some first⟩

theorem whole?_eq_none (noWay : ∀ way ∈ p (.after [] text), way.2.rest ≠ []) :
    whole? p text = none := by
  simpa [whole?, Cursor.start_eq] using noWay

theorem whole?_eq_some {value : α} {stop : Cursor} (present : (value, stop) ∈ p (.after [] text))
    (full : stop.rest = [])
    (same : ∀ other stop, (other, stop) ∈ p (.after [] text) → stop.rest = [] → other = value) :
    whole? p text = some value := by
  simp only [whole?, Cursor.start_eq]
  cases found : (p (.after [] text)).find? fun way => way.2.rest.isEmpty with
  | none =>
    have excluded := List.find?_eq_none.mp found _ present
    simp [full] at excluded
  | some way =>
    have ends : way.2.rest = [] := by simpa using List.find?_some found
    exact congrArg some (same way.1 way.2 (List.mem_of_find?_eq_some found) ends)

end StreamLinks.Pattern
