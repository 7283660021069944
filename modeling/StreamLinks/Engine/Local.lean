import StreamLinks.Duration.Basic
import StreamLinks.Engine.Basic
import StreamLinks.Surroundings
/-!
Engines on this machine: a program that is given source in a scratch file.
-/
namespace StreamLinks

/-- A program that runs source. -/
structure LocalEngine where
  path : Text
  version : Text
  arguments : List Text
  /-- The directory of the scratch files. -/
  scratch : Text
  timeout : Duration
  program : Program

/-- Why a run of a local engine fails. -/
inductive LocalError where
  | noScratch (directory cause : Text)
  | timedOut (timeout : Duration) (engine : Text)
  /-- The status is missing when the program was killed. -/
  | failed (status : Option Nat) (engine : Text)
  | notStarted (engine cause : Text)
  deriving Repr, DecidableEq

namespace LocalError

/-- The names of scratch files, with a star for the part that differs. -/
def scratchName : Text := "yt_*.dump".toList

def message : LocalError → Text
  | noScratch directory cause =>
    "Failed to create files in ".toList ++ directory ++ ": ".toList ++ cause ++
      " at path ".toList ++ FilePath.quote (FilePath.join directory scratchName)
  | timedOut timeout engine =>
    "Timed out after ".toList ++ timeout.toText ++ " (".toList ++ engine ++ [')']
  | failed status engine =>
    "Exit status ".toList ++ ((status.map Text.ofNat).getD "signal".toList) ++ " (".toList ++
      engine ++ [')']
  | notStarted engine cause => "Failed to run ".toList ++ engine ++ ": ".toList ++ cause

def failure (error : LocalError) : Failure := .own .execution error.message

end LocalError

namespace LocalEngine

/-- The engine whose arguments are known. -/
def knownEngine : Text := "deno".toList

/-- The arguments of the known engine: no access to anything but the scratch file. -/
def knownArguments : List Text :=
  ["--ext=js", "--no-code-cache", "--no-prompt", "--no-remote", "--no-lock",
    "--node-modules-dir=none", "--no-config"].map String.toList

/-- The failure when the program cannot be started, with the cause if there is one. -/
def unstartable (path : Text) (cause : Option Text) : Failure :=
  .own .unavailable ("Failed to run \"".toList ++ path ++ ['"'] ++
    (cause.map (": ".toList ++ ·)).getD [])

/-- What the program printed about its version, or why nothing is known of it, if there is a cause. -/
def versionOf : Ending → Except (Option Text) Text
  | .exited _ output => .ok (Text.lastLine output)
  | .killed => .ok []
  | .never => .error none
  | .refused cause => .error (some cause)

/-- The engine at a path, once it has told its version. -/
def ofProgram (surroundings : Surroundings) (path : Text) (arguments : Option (List Text))
    (scratch : Text) (timeout : Duration) : Except Failure LocalEngine :=
  match surroundings.program path with
  | .error cause => .error (unstartable path (some cause))
  | .ok program =>
    match versionOf program.version with
    | .error cause => .error (unstartable path cause)
    | .ok version =>
      let arguments := arguments.getD
        (if Text.startsWith knownEngine version then knownArguments else [])
      .ok { path, version, arguments, scratch, timeout, program }

def describe (engine : LocalEngine) : Text :=
  '\'' :: (FilePath.name? engine.path).getD engine.path ++ ' ' :: engine.version ++ ['\'']

/-- The last line of what a run printed. -/
def output (engine : LocalEngine) : Ending → Except Failure Text
  | .exited 0 printed => .ok (Text.lastLine printed)
  | .exited status _ => .error (LocalError.failed (some status) engine.describe).failure
  | .killed => .error (LocalError.failed none engine.describe).failure
  | .never => .error (LocalError.timedOut engine.timeout engine.describe).failure
  | .refused cause => .error (LocalError.notStarted engine.describe cause).failure

/-- Runs source from a scratch file, which is gone afterwards. -/
def execute (engine : LocalEngine) (surroundings : Surroundings) (code : Text) : Traced Text :=
  fun trace =>
    match surroundings.barred engine.scratch with
    | some cause => (.error (LocalError.noScratch engine.scratch cause).failure, trace)
    | none =>
      let run : Run := ⟨engine.arguments, code⟩
      let ending := engine.program.run trace.runs run
      (engine.output ending, if ending.isRefused then trace else trace.ran run)

def engine (engine : LocalEngine) (surroundings : Surroundings) : Engine :=
  { describe := engine.describe
    execute := fun _ code => engine.execute surroundings code }

end LocalEngine
end StreamLinks
