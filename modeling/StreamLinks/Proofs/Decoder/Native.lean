import StreamLinks.Proofs.Script.Body
import StreamLinks.Proofs.Transform.Classification
/-!
Simple scripts are decoded natively: a signature comes out as the steps of the script leave it, and
nothing is asked of an engine.
-/
namespace StreamLinks.Decoder
open Transform

theorem prepared_ofScript (script : Text) (runtime : Runtime) :
    (ofScript script runtime).prepared .signature = prepare .signature script := rfl

theorem prepared_simple (simple : SimpleScript) {steps : List (Operation × Nat)}
    (fits : ∀ step ∈ steps, step.2 < argumentBound) (runtime : Runtime) :
    ∃ transform, (ofScript (simple.script steps) runtime).prepared .signature =
      .ok ⟨transform, some (SimpleScript.instructions steps)⟩ := by
  obtain ⟨code, prepared⟩ := simple.prepare_eq steps
  refine ⟨⟨simple.function.text, code, simple.body steps⟩, ?_⟩
  rw [prepared_ofScript, prepared, simple.classify_body steps fits]

theorem decodeFresh_native {decoder : Decoder} {kind : TokenKind} {transform : Script.Transform}
    {instructions : List Instruction}
    (prepared : decoder.prepared kind = .ok ⟨transform, some instructions⟩) (token : Text)
    (world : World) :
    decoder.decodeFresh kind token world = (.ok (Instruction.runAll instructions token), world) := by
  simp only [decodeFresh, prepared]

-- The world stays as it is, so no source is run, whatever the runtime is.
theorem decode_simple (simple : SimpleScript) (steps : List (Operation × Nat))
    (fits : ∀ step ∈ steps, step.2 < argumentBound) (token : Text) (runtime : Runtime)
    (world : World) :
    (ofScript (simple.script steps) runtime).decode .signature token {} world =
      (.ok (Instruction.runAll (SimpleScript.instructions steps) token),
        ({} : Memo).insert .signature token
          (Instruction.runAll (SimpleScript.instructions steps) token), world) := by
  have nothing : ({} : Memo).get? .signature token = none := rfl
  obtain ⟨transform, prepared⟩ := prepared_simple simple fits runtime
  simp only [decode, Memo.getOrCall, nothing, decodeFresh_native prepared]

-- Names that are words of the script themselves.
def sampleScript : SimpleScript where
  function := ⟨"var".toList, by decide, List.all_eq_true.mp rfl⟩
  object := ⟨"function".toList, by decide, List.all_eq_true.mp rfl⟩
  helper
    | .swap => ⟨"a".toList, by decide, List.all_eq_true.mp rfl⟩
    | .splice => ⟨"splice".toList, by decide, List.all_eq_true.mp rfl⟩
    | .reverse => ⟨"$9".toList, by decide, List.all_eq_true.mp rfl⟩
  long := by decide
  distinct {one other} := by cases one <;> cases other <;> decide

theorem decode_simple_sample :
    (∀ step ∈ [(Operation.swap, 47), (Operation.splice, 1), (Operation.reverse, 68)],
      step.2 < argumentBound) ∧
    ((ofScript (sampleScript.script [(.swap, 47), (.splice, 1), (.reverse, 68)])
      (.unavailable "none".toList)).decode .signature "ABCDEFGHIJ".toList {} {}).1 =
        .ok "JIAGFEDCB".toList := by
  have fits : ∀ step ∈ [(Operation.swap, 47), (Operation.splice, 1), (Operation.reverse, 68)],
      step.2 < argumentBound := by decide
  refine ⟨fits, ?_⟩
  rw [decode_simple sampleScript _ fits]
  rfl

end StreamLinks.Decoder
