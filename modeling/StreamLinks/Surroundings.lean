import StreamLinks.File.Path
import StreamLinks.World
/-!
What lies around a program: files, environment, other programs and servers.
-/
namespace StreamLinks

/-- How a run of another program ends. -/
inductive Ending where
  | exited (status : Nat) (output : Text)
  | killed
  /-- Not within any time. -/
  | never
  /-- The program cannot be started with these arguments. -/
  | refused (cause : Text)
  deriving Repr, DecidableEq

/-- The program did not start. -/
def Ending.isRefused : Ending → Bool
  | refused _ => true
  | _ => false

/-- Another program: how it tells its version, and how a run ends after earlier runs. -/
structure Program where
  version : Ending
  run : (earlier : List Run) → Run → Ending

structure Surroundings where
  server : Http.Server
  /-- The text of a file, or why there is none. -/
  contents : (path : Text) → Except Text Text
  isFile : (path : Text) → Bool
  isDirectory : (path : Text) → Bool
  /-- Why no file can be made in a directory, if so. -/
  barred : (directory : Text) → Option Text
  /-- The program at a path, or why it cannot be started. -/
  program : (path : Text) → Except Text Program
  environment : (name : Text) → Option Text
  /-- The directory of the running program. -/
  home : Option Text
  /-- The directory for scratch files. -/
  scratch : Text

end StreamLinks
