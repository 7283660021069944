import StreamLinks.Json.Decode
/-!
Records: a field is read from the one member that has its name, whatever the order of the members. What
is read as a number keeps to its bound, and a list is read item by item.
-/
namespace StreamLinks.Json
variable {α : Type} {given : List (Text × Value)}

theorem members_eq_nil {name : Text} (absent : name ∉ given.map (·.1)) : members name given = [] := by
  rw [members, List.map_eq_nil_iff, List.filter_eq_nil_iff]
  rintro ⟨key, value⟩ present same
  rw [beq_iff_eq] at same
  subst same
  exact absent (List.mem_map_of_mem present)

theorem members_of_nodup (distinct : (given.map (·.1)).Nodup) (name : Text) :
    members name given = (given.lookup name).toList := by
  induction given with
  | nil => rfl
  | cons member given ih =>
    obtain ⟨key, value⟩ := member
    rw [List.map_cons, List.nodup_cons] at distinct
    obtain ⟨alone, distinct⟩ := distinct
    by_cases same : key = name
    · subst same
      have others := members_eq_nil alone
      rw [List.lookup_cons, beq_self_eq_true]
      simpa [members] using others
    · have skip : (name == key) = false := by simpa using Ne.symm same
      have rest := ih distinct
      rw [List.lookup_cons, skip, ← rest]
      simp [members, same]

theorem fields_of_nodup (distinct : (given.map (·.1)).Nodup) (wanted : List Field) :
    fields wanted (.object given) = some (wanted.map fun field => given.lookup field.name.toList) := by
  induction wanted with
  | nil => rfl
  | cons field wanted ih =>
    simp only [fields, List.mapM_cons, members_of_nodup distinct] at ih ⊢
    rw [ih, List.map_cons]
    cases given.lookup field.name.toList <;> rfl

theorem lt_of_below? {bound n : Nat} {value : Value} (found : below? bound value = some n) :
    n < bound := by
  unfold below? at found
  split at found
  · split at found
    · cases found
      assumption
    · cases found
  · cases found

theorem of_required {read : Value → Option α} {value : Option Value} {x : α}
    (found : required read value = some x) : ∃ given, read given = some x := by
  cases value with
  | none => cases found
  | some given => exact ⟨given, found⟩

theorem lt_of_optional {bound : Nat} {value : Option Value} {number : Option Nat}
    (found : optional (below? bound) value = some number) : ∀ n ∈ number, n < bound := by
  intro n held
  cases held
  unfold optional at found
  split at found
  · cases found
  · cases found
  · obtain ⟨m, read, same⟩ := Option.map_eq_some_iff.mp found
    cases same
    exact lt_of_below? read

theorem listOf?_map {item : Value → Option α} {toJson : α → Value} {values : List α}
    (each : ∀ value ∈ values, item (toJson value) = some value) :
    listOf? item (.array (values.map toJson)) = some values := by
  induction values with
  | nil => rfl
  | cons value values ih =>
    have first := each value (List.mem_cons_self ..)
    have rest := ih fun other present => each other (List.mem_cons_of_mem _ present)
    simp only [listOf?] at rest ⊢
    simp [first, rest]

theorem of_mem_listOf? {item : Value → Option α} {value : Value} {values : List α}
    (found : listOf? item value = some values) : ∀ x ∈ values, ∃ part, item part = some x := by
  cases value with
  | array parts =>
    simp only [listOf?] at found
    induction parts generalizing values with
    | nil =>
      cases found
      simp
    | cons part parts ih =>
      simp only [List.mapM_cons] at found
      obtain ⟨first, read, rest⟩ := Option.bind_eq_some_iff.mp found
      obtain ⟨others, readOthers, same⟩ := Option.bind_eq_some_iff.mp rest
      cases same
      intro x present
      rcases List.mem_cons.mp present with rfl | later
      · exact ⟨part, read⟩
      · exact ih readOthers x later
  | _ => cases found

end StreamLinks.Json
