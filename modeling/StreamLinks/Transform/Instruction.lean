import StreamLinks.Text.Basic
/-!
The three operations of simple transforms, and what they do to the characters of a token.
-/
namespace StreamLinks

/-- One step of a simple transform. -/
inductive Instruction where
  /-- Exchanges the first character with the one at the index, taken modulo the length. -/
  | swap (index : Nat)
  /-- Drops the first characters. -/
  | splice (count : Nat)
  | reverse
  deriving Repr, DecidableEq

namespace Instruction

/-- The elements with the first one and the one at `index` exchanged. -/
def exchange (index : Nat) : List α → List α
  | [] => []
  | first :: rest =>
    match index with
    | 0 => first :: rest
    | place + 1 => match rest[place]? with
      | some other => other :: rest.set place first
      | none => first :: rest

/-- The effect of one step on a sequence. -/
def run (instruction : Instruction) (items : List α) : List α :=
  match instruction with
  | swap index => exchange (index % items.length) items
  | splice count => items.drop count
  | reverse => items.reverse

/-- The effect of the steps in order. -/
def runAll (instructions : List Instruction) (items : List α) : List α :=
  instructions.foldl (fun items instruction => instruction.run items) items

end Instruction
end StreamLinks
