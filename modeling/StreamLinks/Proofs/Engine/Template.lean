import StreamLinks.Engine.Basic
import StreamLinks.Proofs.Text.Cutting
/-!
Templates and what they are filled with.

A template is taken apart at its marks, and what comes between two of them is neither searched again nor changed. So
the arguments alternate with the pieces, if there are as many of them as there are marks.
-/
namespace StreamLinks.Template
variable {first : Text} {others arguments : List Text}

-- One argument for each piece behind the first one.
theorem weave_eq (enough : arguments.length = others.length) :
    weave (first :: others) arguments = first ++ (List.zipWith (· ++ ·) arguments others).flatten := by
  induction others generalizing first arguments with
  | nil =>
    obtain rfl := List.length_eq_zero_iff.mp enough
    rfl
  | cons next others ih =>
    obtain ⟨argument, arguments, rfl⟩ := List.exists_cons_of_length_eq_add_one enough
    rw [weave, ih (Nat.succ.inj enough), List.zipWith_cons_cons, List.flatten_cons]
    simp only [List.append_assoc]

-- Only the template is searched for places to fill, and what stands before and behind such a place is not taken for
-- a part of it.
theorem render_join (clean : ∀ piece ∈ first :: others, ¬ hole <:+: piece) (arguments : List Text) :
    (render (Text.join hole (first :: others)) arguments).mapError
        (fun mismatch => (ExecutionError.template mismatch).failure) =
      if arguments.length + 1 = (first :: others).length then
        .ok (first ++ (List.zipWith (· ++ ·) arguments others).flatten)
      else
        .error (.own .execution ("Function code error (template expects ".toList ++ Text.ofNat others.length ++
          " arguments, got ".toList ++ Text.ofNat arguments.length ++ [')'])) := by
  have pieces : Text.splitOn hole (Text.join hole (first :: others)) = first :: others :=
    Text.splitOn_join (by decide) clean
  simp only [render, pieces, List.length_cons, Nat.add_sub_cancel, Nat.add_right_cancel_iff]
  by_cases enough : arguments.length = others.length
  · rw [if_pos enough.symm, if_pos enough, weave_eq enough]
    rfl
  · rw [if_neg (Ne.symm enough), if_neg enough]
    rfl

-- Pieces that end and begin with the halves of a mark, and arguments that hold the whole of it.
theorem render_join_halves :
    (∀ piece ∈ ["a%".toList, "s".toList, "%%".toList], ¬ hole <:+: piece) ∧
      (render "a%%ss%s%%".toList ["%s".toList, "x%s".toList]).mapError
        (fun mismatch => (ExecutionError.template mismatch).failure) = .ok "a%%ssx%s%%".toList ∧
      (render "a%%ss%s%%".toList ["%s".toList]).mapError
        (fun mismatch => (ExecutionError.template mismatch).failure) =
          .error (.own .execution "Function code error (template expects 2 arguments, got 1)".toList) := by
  have clean : ∀ piece ∈ ["a%".toList, "s".toList, "%%".toList], ¬ hole <:+: piece := by decide
  exact ⟨clean, render_join clean ["%s".toList, "x%s".toList], render_join clean ["%s".toList]⟩

end StreamLinks.Template
