import Mathlib.Algebra.GroupWithZero.Nat
import StreamLinks.Transform.Instruction
/-!
How much of a sequence the steps of a transform leave: all but what its splices drop.
-/
namespace StreamLinks.Instruction

-- How much a step takes from a sequence that is long enough.
def dropped : Instruction → Nat
  | splice count => count
  | _ => 0

theorem length_exchange (index : Nat) (items : List α) :
    (exchange index items).length = items.length := by
  cases items with
  | nil => rfl
  | cons first rest =>
    cases index with
    | zero => rfl
    | succ place =>
      simp only [exchange]
      split <;> simp

theorem length_run (instruction : Instruction) (items : List α) :
    (instruction.run items).length = items.length - instruction.dropped := by
  cases instruction with
  | swap index => exact length_exchange _ items
  | splice count => exact List.length_drop
  | reverse => exact List.length_reverse

theorem length_runAll (instructions : List Instruction) (items : List α) :
    (runAll instructions items).length = items.length - (instructions.map dropped).sum := by
  induction instructions generalizing items with
  | nil => rfl
  | cons instruction instructions ih =>
    have rest := ih (instruction.run items)
    rw [length_run] at rest
    rw [List.map_cons, List.sum_cons, ← Nat.sub_sub]
    exact rest

theorem runAll_eq_nil_iff (instructions : List Instruction) (items : List α) :
    runAll instructions items = [] ↔ items.length ≤ (instructions.map dropped).sum := by
  rw [← List.length_eq_zero_iff, length_runAll, Nat.sub_eq_zero_iff_le]

end StreamLinks.Instruction
