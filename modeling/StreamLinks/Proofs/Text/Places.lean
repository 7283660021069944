import StreamLinks.Proofs.Text.Classes
import StreamLinks.Text.Numeral
/-!
What stands around the characters of a class.

A text that is put together from pieces has the places of its pieces, so a property of all places is
checked piece by piece, and a piece without such characters has nothing to check.
-/
namespace StreamLinks.Text

-- The property holds of what stands before and from each character of the class.
def Around (cls : Char → Bool) (property : Text → Text → Prop) (text : Text) : Prop :=
  ∀ before c tail, text = before ++ c :: tail → cls c = true → property before (c :: tail)

variable {cls : Char → Bool} {property : Text → Text → Prop}

theorem around_nil : Around cls property [] := by
  intro before c tail split
  cases (List.append_eq_nil_iff.mp split.symm).2

theorem around_cons {c : Char} {rest : Text} :
    Around cls property (c :: rest) ↔ (cls c = true → property [] (c :: rest)) ∧
      Around cls (fun before behind => property (c :: before) behind) rest := by
  constructor
  · intro around
    refine ⟨around [] c rest rfl, ?_⟩
    rintro before d tail rfl inside
    exact around (c :: before) d tail rfl inside
  · rintro ⟨here, later⟩ before d tail split inside
    cases before with
    | nil =>
      cases split
      exact here inside
    | cons e before =>
      cases split
      exact later before d tail rfl inside

theorem around_append {front back : Text} :
    Around cls property (front ++ back) ↔
      Around cls (fun before behind => property before (behind ++ back)) front ∧
        Around cls (fun before behind => property (front ++ before) behind) back := by
  induction front generalizing property with
  | nil => simp [around_nil]
  | cons c front ih =>
    simp only [List.cons_append, around_cons, ih, and_assoc]

theorem around_of_none {text : Text} (none : ∀ c ∈ text, cls c = false) :
    Around cls property text := by
  rintro before c tail rfl inside
  have outside := none c (by simp)
  rw [inside] at outside
  cases outside

theorem around_of_any {text : Text} (none : text.any cls = false) : Around cls property text :=
  around_of_none (outside_of_any none)

theorem around_char (mark : Char) (here : property [] [mark]) : Around cls property [mark] :=
  around_cons.mpr ⟨fun _ => here, around_nil⟩

end StreamLinks.Text
