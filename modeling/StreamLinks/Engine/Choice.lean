import StreamLinks.Engine.Local
import StreamLinks.Engine.Remote
import StreamLinks.Settings
/-!
Which engine is used: the worker if one is set, else the engine at the set path, else one beside the
running program.
-/
namespace StreamLinks

/-- Why no engine is found on this machine. -/
inductive SearchError where
  | notFound
  | invalidPath (path : Text)
  deriving Repr, DecidableEq

def SearchError.message : SearchError → Text
  | notFound => "Deno not found".toList
  | invalidPath path => "JS runtime not found: invalid path \"".toList ++ path ++ ['"']

def SearchError.failure (error : SearchError) : Failure := .own .unavailable error.message

namespace LocalEngine

/-- The names under which engines are looked for. -/
def names : List Text := ["deno.exe".toList, "deno".toList]

/-- The first engine in a directory. -/
def inDirectory? (surroundings : Surroundings) (directory : Text) : Option Text :=
  (names.map (FilePath.join directory)).find? surroundings.isFile

/-- The engine beside the running program. -/
def beside? (surroundings : Surroundings) : Option Text :=
  surroundings.home.bind (inDirectory? surroundings)

/-- The path of the engine to use. -/
def find (surroundings : Surroundings) (path : Option Text) : Except SearchError Text :=
  let found : Option Text → Except SearchError Text
    | some path => .ok path
    | none => .error .notFound
  match path with
  | none => found (beside? surroundings)
  | some path =>
    if surroundings.isFile path then .ok path
    else if surroundings.isDirectory path then
      found ((inDirectory? surroundings path).or (beside? surroundings))
    else .error (.invalidPath path)

/-- The engine that the settings lead to. -/
def ofSettings (surroundings : Surroundings) (settings : Settings) :
    Except Failure LocalEngine :=
  match find surroundings settings.enginePath with
  | .error error => .error error.failure
  | .ok path =>
    ofProgram surroundings path settings.engineArguments
      (settings.scratch.getD surroundings.scratch) settings.executionTimeout

end LocalEngine

namespace Runtime

/-- The runtime that the settings lead to. -/
def ofSettings (surroundings : Surroundings) (settings : Settings) : Runtime :=
  match settings.worker with
  | some worker => .ready (worker.engine surroundings.server)
  | none =>
    match LocalEngine.ofSettings surroundings settings with
    | .ok engine => .ready (engine.engine surroundings)
    | .error failure => .unavailable failure.message

end Runtime
end StreamLinks
