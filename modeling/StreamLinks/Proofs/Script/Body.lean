import StreamLinks.Decoder.Basic
import StreamLinks.Proofs.Script.Extraction
/-!
The body of the function of a simple script, as it is handed on to be classified.
-/
namespace StreamLinks

namespace Script

theorem isPlain_of_isNameChar {c : Char} (inside : isNameChar c = true) : isPlain c = true := by
  have marks : "\"'\x60/\x7b\x7d".toList.any isNameChar = false := rfl
  rw [isPlain, Bool.not_eq_true', List.contains_eq_mem, decide_eq_false_iff_not]
  intro present
  exact List.any_eq_false.mp marks c present inside

end Script

namespace SimpleScript
open Script Transform

variable (simple : SimpleScript) (steps : List (Operation × Nat))

theorem body_nested : Body '{' (simple.body steps) := by
  have marks : ∀ c ∈ ".(,);".toList, isPlain c = true := List.all_eq_true.mp rfl
  have calls : (steps.flatMap simple.call).all isPlain = true := by
    rw [List.all_eq_true]
    intro c present
    obtain ⟨step, -, here⟩ := List.mem_flatMap.mp present
    rcases mem_call here with inside | mark
    · exact isPlain_of_isNameChar inside
    · exact marks c mark
  have parts : simple.body steps = "a=a.split(".toList ++ '"' :: ([] ++ '"' :: (");".toList ++
      (steps.flatMap simple.call ++ (" return a.join(".toList ++ '"' :: ([] ++ '"' ::
        (")".toList ++ [])))))) := by
    have prologue : "a=a.split(\"\");".toList = "a=a.split(".toList ++ '"' :: '"' :: ");".toList := rfl
    have epilogue : " return a.join(\"\")".toList =
        " return a.join(".toList ++ '"' :: '"' :: ")".toList := rfl
    unfold body
    simp only [prologue, epilogue, List.append_assoc, List.cons_append, List.nil_append,
      List.append_nil]
  rw [parts]
  exact .run rfl (.quoted rfl .empty (.run rfl (.run calls (.run rfl (.quoted rfl .empty
    (.run rfl .empty))))))

theorem function?_eq : ∃ declaration, function? simple.function.text (simple.script steps) =
    some ⟨simple.function.text, ["a".toList], simple.body steps, declaration⟩ := by
  obtain ⟨more, head⟩ := simple.functionHead?_eq steps
  exact ⟨_, function?_of_head head (by decide) (simple.body_nested steps)⟩

theorem prepare_eq : ∃ code, prepare .signature (simple.script steps) =
    .ok ⟨⟨simple.function.text, code, simple.body steps⟩,
      classify (simple.body steps) (simple.script steps)⟩ := by
  obtain ⟨declaration, function⟩ := simple.function?_eq steps
  refine ⟨?_, ?_⟩
  rotate_left
  · simp only [prepare, transform?, functionName?_eq, function, Except.map]
    rfl

end SimpleScript
end StreamLinks
