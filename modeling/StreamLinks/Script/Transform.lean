import StreamLinks.Script.FunctionName
import StreamLinks.Script.Dependency
import StreamLinks.Script.Lookup
/-!
The transform of a token kind as source that can be run on its own.
-/
namespace StreamLinks.Script

/-- A transform function and the source that is needed to call it. -/
structure Transform where
  /-- The name under which the function can be called once `code` has been run. -/
  name : Text
  /-- Helpers, lookup variable and the function itself. -/
  code : Text
  /-- The text between the function's outer braces. -/
  body : Text
  deriving Repr, DecidableEq

/-- What a script lacks when its transform cannot be cut out. -/
inductive ExtractionError where
  | missingName (kind : TokenKind)
  | missingCode (kind : TokenKind)
  deriving Repr, DecidableEq

/-- The lookup variable, if there is one, and a function's declaration without guards. -/
def runnableCode (function : Function) (script : Text) : Text :=
  let lookup := (lookup? script).toList.map fun found => found.code ++ [';']
  Text.join ['\n'] (lookup ++ [dropGuards function.declaration])

/-- The source of the function with this name. -/
def functionCode? (word script : Text) : Option Text :=
  (function? word script).map (runnableCode · script)

/-- The transform of a kind. The helpers of a signature's transform come before all else; the lookup
variable is not repeated among them. -/
def transform? (kind : TokenKind) (script : Text) : Except ExtractionError Transform :=
  match functionName? kind script with
  | none => .error (.missingName kind)
  | some word =>
    match function? word script with
    | none => .error (.missingCode kind)
    | some function =>
      let lookupName := (lookup? script).map (·.name)
      let helpers := match kind with
        | .signature =>
          ((dependencies function script).filter fun helper => some helper.name != lookupName).map
            (·.code)
        | .throttle => []
      .ok ⟨word, Text.join ['\n'] (helpers ++ [runnableCode function script]), function.body⟩

end StreamLinks.Script
