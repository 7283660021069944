import StreamLinks.Script.Code
/-!
Definitions of functions and variables in a script, cut out as text that stands on its own.
-/
namespace StreamLinks.Script

open Pattern

/-- A function that a script defines. -/
structure Function where
  name : Text
  params : List Text
  /-- The text between the outer braces. -/
  body : Text
  /-- The definition with its name, parameters and body, in one of two normal forms. -/
  declaration : Text
  deriving Repr, DecidableEq

/-- `function NAME(`. -/
def namedFunction (word : Pattern α) : Pattern α := do
  bareStart
  literal "function"; blanksBeforeWord
  let found ← word
  blanks; literal "("
  return found

/-- `NAME=function(` with or without a declarator. -/
def assignedFunction (word : Pattern α) : Pattern α := do
  bareStart
  let _ ← optional declarator
  let found ← word
  blanks; literal "="; blanks; literal "function"; blanks; literal "("
  return found

/-- The way in which a function is bound to its name. -/
inductive Binding where
  | named
  | assigned
  deriving Repr, DecidableEq

/-- The text of a definition. -/
def Binding.declaration (binding : Binding) (word params body : Text) : Text :=
  match binding with
  | .named => "function ".toList ++ word ++ ['('] ++ params ++ ")\x7b".toList ++ body ++ ['}']
  | .assigned =>
    "var ".toList ++ word ++ "=function(".toList ++ params ++ ")\x7b".toList ++ body ++
      "\x7d;".toList

/-- What follows the opening bracket of the parameters of the function with this name. A named
function anywhere in the script is preferred to an assigned one. -/
def functionHead? (word script : Text) : Option (Binding × Text) :=
  match (namedFunction (text word)).first? script with
  | some found => some (.named, found.stop.rest)
  | none =>
    ((assignedFunction (text word)).first? script).map fun found => (.assigned, found.stop.rest)

/-- The body of a function from its opening brace. When no brace closes it, the first `};` ends
it. -/
def bodyOf? (fromBrace : Text) : Option Text :=
  let fallback := (Text.cut "\x7d;".toList fromBrace).map fun parts => parts.1.length
  ((matchingBrace fromBrace).or fallback).map fun offset => (fromBrace.take offset).drop 1

/-- The parameters of a function, without blanks and empty places. -/
def parametersOf (params : Text) : List Text :=
  ((Text.splitAtChar ',' params).map Text.trim).filter fun param => !param.isEmpty

/-- The definition of the function with this name. Only blanks may stand between its parameters and
its opening brace. -/
def function? (word script : Text) : Option Function := do
  let (binding, fromParams) ← functionHead? word script
  let (params, behindParams) ← Text.cut [')'] fromParams
  let (gap, behindBrace) ← Text.cut ['{'] behindParams
  if !gap.all Text.isBlank then none
  else
    let body ← bodyOf? ('{' :: behindBrace)
    return ⟨word, parametersOf params, body, binding.declaration word params body⟩

/-- `var NAME=` with any declarator: the name, and the place where the declarator starts. -/
def declaredVariable : Pattern (Text × Cursor) := do
  bareStart
  fun place =>
    ((do declarator; let word ← name; blanks; literal "="; return word : Pattern Text) place).map
      fun (word, stop) => ((word, place), stop)

/-- The variables that a script declares, each with the place where its declarator starts. -/
def declaredVariables (script : Text) : List (Text × Cursor) :=
  (declaredVariable.everywhere script).map (·.value)

/-- The names that a script gives to functions. -/
def functionNames (script : Text) : List Text :=
  ((namedFunction name).everywhere script ++ (assignedFunction name).everywhere script).map (·.value)

/-- The statement that begins at a place, with its semicolon. -/
def statementFrom (place : Cursor) : Option Text :=
  (statementEnd place.rest).map fun offset => place.rest.take (offset + 1)

end StreamLinks.Script
