import StreamLinks.Proofs.Transform.Calls
import StreamLinks.Proofs.Transform.Helper
/-!
A simple body is classified as the list of its steps.

All its calls go through one object, so each of them means what it means on its own.
-/
namespace StreamLinks.SimpleScript
open Script Transform

variable (simple : SimpleScript) (steps : List (Operation × Nat))

theorem statementsOf_body : statementsOf (simple.body steps) =
    statementsOf (callsBody letterA (steps.map simple.helperCall)) := by
  have prologue : "a=a.split(\"\");".toList = splitText letterA ++ [';'] := rfl
  have last : statementsOf " return a.join(\"\")".toList = [joinText letterA] := by decide
  have calls : statementsOf (steps.flatMap simple.call ++ " return a.join(\"\")".toList) =
      (steps.map simple.helperCall).map (HelperCall.statement letterA) ++ [joinText letterA] := by
    induction steps with
    | nil => exact last
    | cons step steps ih =>
      have semicolon : ";".toList = [';'] := rfl
      rw [List.flatMap_cons, call_eq, statement_eq, semicolon, List.append_assoc, List.append_assoc,
        List.singleton_append, HelperCall.statementsOf_statement, ih, List.map_cons, List.map_cons,
        List.cons_append]
  unfold body
  rw [statementsOf_calls, prologue, List.append_assoc, List.append_assoc, List.singleton_append,
    statementsOf_split, calls]

theorem settled_helperCall (step : Operation × Nat) :
    settled (steps.map simple.helperCall) (simple.helperCall step) = simple.helperCall step := by
  unfold settled
  cases found : settledBy? (steps.map simple.helperCall) (simple.helperCall step).function.text with
  | none => rfl
  | some first =>
    obtain ⟨other, -, rfl⟩ := List.mem_map.mp (List.mem_of_find?_eq_some found)
    rfl

theorem instruction?_helperCall {step : Operation × Nat} (fits : step.2 < argumentBound) :
    (simple.helperCall step).instruction? (simple.script steps) = some (step.1.instruction step.2) := by
  have value : (simple.helperCall step).value? = some step.2 := Text.readNat?_ofNat fits
  have looked : (simple.helperCall step).operation? (simple.script steps) = some step.1 :=
    simple.operation?_eq steps step.1
  rw [HelperCall.instruction?, value, Option.bind_some, looked, Option.map_some]

theorem classify_body (fits : ∀ step ∈ steps, step.2 < argumentBound) :
    classify (simple.body steps) (simple.script steps) = some (instructions steps) := by
  have same : classify (simple.body steps) (simple.script steps) =
      classify (callsBody letterA (steps.map simple.helperCall)) (simple.script steps) := by
    unfold classify
    rw [statementsOf_body]
  have each : ∀ step ∈ steps, (settled (steps.map simple.helperCall)
      (simple.helperCall step)).instruction? (simple.script steps) = some (step.1.instruction step.2) := by
    intro step present
    rw [settled_helperCall]
    exact simple.instruction?_helperCall steps (fits step present)
  rw [same, classify_calls, mapM_eq_some_iff, instructions, List.forall₂_map_left_iff,
    List.forall₂_map_right_iff, List.forall₂_same]
  exact each

end StreamLinks.SimpleScript
