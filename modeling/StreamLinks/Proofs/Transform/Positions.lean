import Mathlib.Algebra.BigOperators.Group.List.Basic
import Mathlib.Data.List.FinRange
import Mathlib.Data.List.Perm.Subperm
import StreamLinks.Proofs.Transform.Length
/-!
Where the characters of a transformed token come from.

A step moves whole elements and never looks at them. So what the steps do to the places of a sequence is
what they do to every sequence of that length.
-/
namespace StreamLinks.Instruction
open List

variable {α β : Type}

section places

theorem exchange_map (f : α → β) (index : Nat) (items : List α) :
    exchange index (items.map f) = (exchange index items).map f := by
  cases items with
  | nil => rfl
  | cons first rest =>
    cases index with
    | zero => rfl
    | succ place =>
      simp only [List.map_cons, exchange, List.getElem?_map]
      cases rest[place]? with
      | none => rfl
      | some other => simp only [Option.map_some, List.map_cons, List.map_set]

theorem run_map (f : α → β) (instruction : Instruction) (items : List α) :
    instruction.run (items.map f) = (instruction.run items).map f := by
  cases instruction with
  | swap index =>
    simp only [run, List.length_map]
    exact exchange_map f _ items
  | splice count => exact List.map_drop.symm
  | reverse => exact List.map_reverse.symm

theorem runAll_map (f : α → β) (instructions : List Instruction) (items : List α) :
    runAll instructions (items.map f) = (runAll instructions items).map f := by
  induction instructions generalizing items with
  | nil => rfl
  | cons instruction instructions ih =>
    have rest := ih (instruction.run items)
    rw [← run_map] at rest
    exact rest

-- The places that the steps leave of a sequence of this length, in their new order.
def positions (instructions : List Instruction) (length : Nat) : List (Fin length) :=
  runAll instructions (List.finRange length)

theorem runAll_eq_positions (instructions : List Instruction) (items : List α) :
    runAll instructions items = (positions instructions items.length).map items.get := by
  rw [positions, ← runAll_map, List.map_get_finRange]

end places

section kept

theorem exchange_perm (index : Nat) (items : List α) : exchange index items ~ items := by
  cases items with
  | nil => exact .refl []
  | cons first rest =>
    cases index with
    | zero => exact .refl _
    | succ place =>
      have moved := List.getD_set_perm_cons rest place first
      simp only [exchange]
      cases found : rest[place]? with
      | none => exact .refl _
      | some other => rwa [found, Option.getD_some] at moved

theorem run_subperm (instruction : Instruction) (items : List α) : instruction.run items <+~ items := by
  cases instruction with
  | swap index => exact (exchange_perm _ items).subperm
  | splice count => exact (List.drop_sublist count items).subperm
  | reverse => exact (List.reverse_perm items).subperm

theorem runAll_subperm (instructions : List Instruction) (items : List α) :
    runAll instructions items <+~ items := by
  induction instructions generalizing items with
  | nil => exact .refl _
  | cons instruction instructions ih => exact (ih (instruction.run items)).trans (run_subperm _ items)

theorem positions_nodup (instructions : List Instruction) (length : Nat) :
    (positions instructions length).Nodup := by
  obtain ⟨kept, same, part⟩ := runAll_subperm instructions (List.finRange length)
  exact same.nodup_iff.mp (part.nodup (List.nodup_finRange length))

theorem length_positions (instructions : List Instruction) (length : Nat) :
    (positions instructions length).length = length - (instructions.map dropped).sum := by
  rw [positions, length_runAll, List.length_finRange]

theorem dropped_of_unspliced {instructions : List Instruction}
    (unspliced : ∀ count, splice count ∉ instructions) : (instructions.map dropped).sum = 0 := by
  apply List.sum_eq_zero
  intro count present
  obtain ⟨instruction, listed, rfl⟩ := List.mem_map.mp present
  cases instruction with
  | swap index => rfl
  | splice count => exact absurd listed (unspliced count)
  | reverse => rfl

-- What is not dropped is all there.
theorem runAll_perm {instructions : List Instruction} (unspliced : ∀ count, splice count ∉ instructions)
    (items : List α) : runAll instructions items ~ items := by
  apply (runAll_subperm instructions items).perm_of_length_le
  rw [length_runAll, dropped_of_unspliced unspliced, Nat.sub_zero]

end kept

-- The same places for all texts of a length: they are fixed before any character is known.
theorem runAll_selects (instructions : List Instruction) (length : Nat) :
    ∃ positions : List (Fin length), positions.Nodup ∧
      positions.length = length - (instructions.map dropped).sum ∧
      ∀ (text : Text) (fits : text.length = length),
        runAll instructions text = positions.map (fun place => text.get (place.cast fits.symm)) ∧
        runAll instructions text <+~ text ∧
        ((∀ count, splice count ∉ instructions) → runAll instructions text ~ text) := by
  refine ⟨positions instructions length, positions_nodup _ _, length_positions _ _, ?_⟩
  intro text fits
  subst fits
  exact ⟨runAll_eq_positions instructions text, runAll_subperm instructions text,
    fun unspliced => runAll_perm unspliced text⟩

-- Two texts go through the same places, with a splice and without one.
theorem runAll_selects_letters :
    (∃ positions : List (Fin 10), positions.length = 7 ∧
      "JDHGFEI".toList = positions.map ("ABCDEFGHIJ".toList.get ·) ∧
      "9376548".toList = positions.map ("0123456789".toList.get ·)) ∧
    "eihgfjdabc".toList ~ "abcdefghij".toList := by
  refine ⟨?_, ?_⟩
  · obtain ⟨positions, -, length, selected⟩ := runAll_selects [.splice 3, .swap 5, .reverse] 10
    have letters := (selected "ABCDEFGHIJ".toList rfl).1
    have digits := (selected "0123456789".toList rfl).1
    exact ⟨positions, length, letters, digits⟩
  · obtain ⟨_, -, -, selected⟩ := runAll_selects [.swap 12, .reverse, .swap (2 ^ 64 - 1)] 10
    exact (selected "abcdefghij".toList rfl).2.2 (by simp)

end StreamLinks.Instruction
