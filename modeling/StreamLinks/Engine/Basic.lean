import StreamLinks.World
import StreamLinks.Engine.Template
import StreamLinks.Script.FunctionName
/-!
Engines that run source, and the checks on what they print.
-/
namespace StreamLinks

/-- Something that runs source and gives the last line that it printed. What it prints may depend on
the sources that it was given before. -/
structure Engine where
  /-- Its name and version for messages. -/
  describe : Text
  execute : (earlier : List Text) → (code : Text) → Traced Text

namespace Engine

/-- An engine that answers from a rule over the sources it was given before and the current one. -/
def scripted (describe : Text)
    (reply : (earlier : List Text) → (code : Text) → Except Failure Text) : Engine :=
  { describe
    execute := fun earlier code trace => (reply earlier code, trace) }

/-- Gives source to an engine. -/
def call (engine : Engine) (code : Text) : Call Text := fun world =>
  match engine.execute world.codes code world.trace with
  | (outcome, trace) => (outcome, { world.ran code with trace })

end Engine

/-- Why a run is in vain. -/
inductive ExecutionError where
  | template (mismatch : Template.Mismatch)
  /-- A transform printed nothing or the token itself. -/
  | unsolved (kind : TokenKind) (function : Option Text) (engine : Text)
  /-- Prepared source printed nothing. -/
  | silent (engine : Text)
  deriving Repr, DecidableEq

/-- At most this many characters of a function name stand in a message. -/
def shownNameLength : Nat := 20

def ExecutionError.message : ExecutionError → Text
  | template mismatch =>
    "Function code error (template expects ".toList ++ Text.ofNat mismatch.holes ++
      " arguments, got ".toList ++ Text.ofNat mismatch.arguments ++ [')']
  | unsolved kind function engine =>
    let shown := match function with
      | some name => "func:'".toList ++ name.take shownNameLength ++ "' ".toList
      | none => []
    "Failed to solve ".toList ++ kind.tag.toList ++ " (".toList ++ shown ++ engine ++ [')']
  | silent engine => "Failed to solve JS challenges (".toList ++ engine ++ [')']

def ExecutionError.failure (error : ExecutionError) : Failure := .own .execution error.message

/-- What source is run with: an engine, or the reason why there is none. -/
inductive Runtime where
  | ready (engine : Engine)
  | unavailable (reason : Text)

namespace Runtime

def isAvailable : Runtime → Bool
  | ready _ => true
  | unavailable _ => false

def describe : Runtime → Text
  | ready engine => engine.describe
  | unavailable reason => "unavailable (".toList ++ reason ++ [')']

/-- The failure of every run without an engine. -/
def missing (reason : Text) : Failure :=
  .own .unavailable (if reason.isEmpty then "JS runtime not available".toList else reason)

/-- Fills a template and runs it. It has to print something other than the token itself. -/
def run (runtime : Runtime) (kind : TokenKind) (template : Text) (arguments : List Text)
    (token : Text) : Call Text := fun world =>
  match runtime with
  | unavailable reason => (.error (missing reason), world)
  | ready engine =>
    match Template.render template arguments with
    | .error mismatch => (.error (ExecutionError.template mismatch).failure, world)
    | .ok code =>
      match engine.call code world with
      | (.error failure, world) => (.error failure, world)
      | (.ok output, world) =>
        if output = [] ∨ output = token then
          (.error (ExecutionError.unsolved kind arguments[1]? engine.describe).failure, world)
        else (.ok output, world)

/-- Runs prepared source. It has to print something. -/
def runPrepared (runtime : Runtime) (code : Text) : Call Text := fun world =>
  match runtime with
  | unavailable reason => (.error (missing reason), world)
  | ready engine =>
    match engine.call code world with
    | (.error failure, world) => (.error failure, world)
    | (.ok output, world) =>
      if output = [] then (.error (ExecutionError.silent engine.describe).failure, world)
      else (.ok output, world)

end Runtime
end StreamLinks
