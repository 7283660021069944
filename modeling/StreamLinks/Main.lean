import StreamLinks.CommandLine.Help
/-!
The program: looks at the disk and the environment, makes one call, and prints what comes of it.

It has no way to servers and starts no other program. So scripts come from files, and a transform
that needs an engine leaves its warning on the link.
-/
namespace StreamLinks.CommandLine

/-- What stands at a path. -/
structure Place where
  isFile : Bool
  isDirectory : Bool
  contents : Except Text Text

/-- Nothing at all. -/
def Place.nothing : Place :=
  { isFile := false
    isDirectory := false
    contents := .error "No such file or directory (os error 2)".toList }

/-- The paths that a call may look at. -/
def Arguments.paths (arguments : Arguments) (settings : Settings) (home : Option Text) : List Text :=
  arguments.responses ++ arguments.script.toList ++ settings.scratch.toList ++
    (settings.enginePath.toList ++ home.toList).flatMap fun place =>
      place :: LocalEngine.names.map (FilePath.join place)

/-- What a call finds around it, from what was seen before it. -/
def surroundings (places : List (Text × Place)) (given : List (Text × Text))
    (home : Option Text) : Surroundings :=
  let place (path : Text) : Place := (places.lookup path).getD .nothing
  { server := fun _ _ => .unreachable
      ["error trying to connect".toList, "tcp connect error".toList,
        "Network is unreachable (os error 101)".toList]
    contents := fun path => (place path).contents
    isFile := fun path => (place path).isFile
    isDirectory := fun path => (place path).isDirectory
    barred := fun _ => none
    program := fun _ => .error "Permission denied (os error 13)".toList
    environment := fun name => given.lookup name
    home
    scratch := (given.lookup "TMPDIR".toList).getD "/tmp".toList }

/-- Why a file cannot be read. -/
def causeOf : IO.Error → Text
  | .noFileOrDirectory .. => "No such file or directory (os error 2)".toList
  | .permissionDenied .. => "Permission denied (os error 13)".toList
  | error => error.toString.toList

/-- Reads the text of a file. -/
def readContents (path : Text) : IO (Except Text Text) := do
  try
    let octets ← IO.FS.readBinFile (String.ofList path)
    match String.fromUTF8? octets with
    | some text => return .ok text.toList
    | none => return .error "stream did not contain valid UTF-8".toList
  catch error => return .error (causeOf error)

/-- Looks at a path. -/
def look (path : Text) : IO Place := do
  try
    let real ← IO.FS.realPath (String.ofList path)
    if ← real.isDir then
      return { isFile := false
               isDirectory := true
               contents := .error "Is a directory (os error 21)".toList }
    return { isFile := ← real.pathExists
             isDirectory := false
             contents := ← readContents path }
  catch _ => return .nothing

/-- The variables that are set. -/
def readVariables : IO (List (Text × Text)) := do
  let names := "TMPDIR".toList :: Settings.variableNames ++ Paint.variableNames
  names.filterMapM fun name => do
    let value ← IO.getEnv (String.ofList name)
    return value.map fun value => (name, value.toList)

def print (stream : IO.FS.Stream) (lines : List Text) : IO Unit := do
  stream.putStr (String.ofList (printed lines))
  stream.flush

/-- Makes the call that a command line asks for, and tells its status. -/
def perform (commandLine : List Text) : IO Nat := do
  let begun ← IO.monoMsNow
  let output ← IO.getStdout
  let errors ← IO.getStderr
  let given ← readVariables
  let environment := fun name : Text => given.lookup name
  let coloured := Paint.isWanted environment (← output.isTty)
  match read commandLine with
  | .error .help => print output helpLines; return 0
  | .error .version => print output [versionLine]; return 0
  | .error error => print errors (error.lines coloured); return 2
  | .ok arguments =>
    let home := (← IO.appPath).parent.map fun directory => directory.toString.toList
    let settings := arguments.appliedTo (Settings.ofVariables environment)
    let places ← (arguments.paths settings home).mapM fun path => do
      return (path, ← look path)
    let (outcome, _) := run (surroundings places given home) coloured arguments {}
    print output outcome.output
    print errors outcome.errors
    let ended ← IO.monoMsNow
    print output (outcome.closing coloured arguments (.ofMillis (ended - begun)))
    return outcome.status

end StreamLinks.CommandLine

/-- Makes the call that the command line asks for. -/
def main (commandLine : List String) : IO UInt32 := do
  let status ← StreamLinks.CommandLine.perform (commandLine.map String.toList)
  return status.toUInt32
