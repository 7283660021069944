import Mathlib.Data.List.Forall2
/-!
Reading a list item by item, where one item that cannot be read spoils the whole.
-/
namespace StreamLinks
variable {α β : Type}

theorem mapM_option_cons (f : α → Option β) (a : α) (rest : List α) :
    (a :: rest).mapM f = (f a).bind fun b => (rest.mapM f).map (b :: ·) := by
  rw [List.mapM_cons]
  cases f a with
  | none => rfl
  | some b => cases rest.mapM f <;> rfl

theorem mapM_eq_some_iff {f : α → Option β} {items : List α} {results : List β} :
    items.mapM f = some results ↔ List.Forall₂ (fun item result => f item = some result) items results := by
  induction items generalizing results with
  | nil => simp [eq_comm]
  | cons item items ih =>
    rw [mapM_option_cons]
    constructor
    · intro mapped
      obtain ⟨result, first, rest⟩ := Option.bind_eq_some_iff.mp mapped
      obtain ⟨others, later, rfl⟩ := Option.map_eq_some_iff.mp rest
      exact .cons first (ih.mp later)
    · intro related
      cases related with
      | cons first later => rw [first, ih.mpr later]; rfl

theorem mapM_eq_none_iff {f : α → Option β} {items : List α} :
    items.mapM f = none ↔ ∃ item ∈ items, f item = none := by
  induction items with
  | nil => simp
  | cons item items ih =>
    rw [mapM_option_cons, List.exists_mem_cons_iff, ← ih]
    cases f item with
    | none => simp
    | some result => simp

theorem exists_mapM_iff {f : α → Option β} {items : List α} :
    (∃ results, items.mapM f = some results) ↔ ∀ item ∈ items, ∃ result, f item = some result := by
  rw [← Option.ne_none_iff_exists', ne_eq, mapM_eq_none_iff]
  simp [← Option.ne_none_iff_exists']

theorem agree_of_mapM {f g : α → Option β} {items : List α} {results : List β}
    (here : items.mapM f = some results) (there : items.mapM g = some results) :
    ∀ item ∈ items, f item = g item := by
  have related := mapM_eq_some_iff.mp here
  have other := mapM_eq_some_iff.mp there
  clear here there
  induction related with
  | nil =>
    intro item present
    cases present
  | cons first _ ih =>
    cases other with
    | cons firstOther later =>
      intro item present
      rcases List.mem_cons.mp present with rfl | present
      · rw [first, firstOther]
      · exact ih later item present

theorem mapM_of_agree {f g : α → Option β} {items : List α}
    (agree : ∀ item ∈ items, f item = g item) : items.mapM f = items.mapM g := by
  induction items with
  | nil => rfl
  | cons item items ih =>
    obtain ⟨first, later⟩ := List.forall_mem_cons.mp agree
    rw [mapM_option_cons, mapM_option_cons, first, ih later]

-- Two readings of a list of which the second fails wherever the first one does.
theorem mapM_eq_mapM_iff {f g : α → Option β} {items : List α}
    (fails : (∃ item ∈ items, f item = none) → ∃ item ∈ items, g item = none) :
    items.mapM f = items.mapM g ↔
      (∀ item ∈ items, f item = g item) ∨ ∃ item ∈ items, f item = none := by
  constructor
  · intro same
    cases here : items.mapM f with
    | none => exact .inr (mapM_eq_none_iff.mp here)
    | some results => exact .inl (agree_of_mapM here (same ▸ here))
  · intro known
    rcases known with agree | failing
    · exact mapM_of_agree agree
    · rw [mapM_eq_none_iff.mpr failing, mapM_eq_none_iff.mpr (fails failing)]

end StreamLinks
