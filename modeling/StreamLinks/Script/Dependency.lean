import StreamLinks.Script.Definition
/-!
The helpers of a function: the objects and tables at the top of the script that its body reads.
-/
namespace StreamLinks.Script

open Pattern

/-- Names that every script may use without declaring them. -/
def builtins : List Text :=
  ["Array", "Date", "JSON", "Math", "Number", "Object", "RegExp", "String", "decodeURIComponent",
   "encodeURIComponent", "parseInt", "window", "document", "navigator", "this"].map String.toList

/-- `X.m(`: the name `X`. -/
def memberCall : Pattern Text := do
  bareStart
  let word ← name
  literal "."; run isNameChar; literal "("
  return word

/-- `X[` at the start of a statement: the name `X`. -/
def indexedRead : Pattern Text := do
  one fun c => c == ';' || c == '{'
  let word ← name
  literal "["
  return word

/-- `var X=` or `,X=`: the name `X`. -/
def localDeclaration : Pattern Text := do
  either declarator (do literal ","; blanks)
  let word ← name
  blanks; literal "="
  return word

/-- The names that a body reads, those of member calls before those of indexed reads. -/
def referencedNames (body : Text) : List Text :=
  let scanned := '{' :: body
  ((memberCall.all scanned) ++ (indexedRead.all scanned)).map (·.value)

/-- The names that a function binds itself: its own, its parameters and its variables. -/
def Function.boundNames (function : Function) : List Text :=
  function.name :: function.params ++ (localDeclaration.everywhere function.body).map (·.value)

/-- The elements in order of their first occurrence. -/
def firstOccurrences [BEq α] (items : List α) : List α :=
  items.foldl (fun kept item => if kept.contains item then kept else kept ++ [item]) []

/-- The names that a function reads and that are neither bound in it nor known everywhere. -/
def Function.freeNames (function : Function) : List Text :=
  let known := function.boundNames ++ builtins
  firstOccurrences ((referencedNames function.body).filter fun word =>
    !known.contains word && !word.all Char.isDigit)

/-- A helper and the code that declares it. -/
structure Dependency where
  name : Text
  code : Text
  deriving Repr, DecidableEq

/-- The helpers that a function reads and the script declares. A variable is preferred to a function of
the same name. -/
def dependencies (function : Function) (script : Text) : List Dependency :=
  let declared := declaredVariables script
  let functions := functionNames script
  function.freeNames.filterMap fun word =>
    let code : Option Text :=
      match declared.lookup word with
      | some place => statementFrom place
      | none =>
        if functions.contains word then (function? word script).map (·.declaration) else none
    code.map fun code => ⟨word, code⟩

end StreamLinks.Script
