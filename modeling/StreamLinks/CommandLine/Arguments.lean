import StreamLinks.CommandLine.Known
import StreamLinks.Duration.Reader
import StreamLinks.Settings
/-!
Reading the command line.

An option's value may be attached to it or follow it. It is looked at only when the next option or
file comes, so an unknown option is noticed before a bad value that stands in front of it.
-/
namespace StreamLinks.CommandLine

/-- Why a command line is refused, or is no call at all. -/
inductive UsageError where
  | help
  | version
  | unknown (argument : Text)
  | unwantedValue (value argument : Text)
  | missingValue (argument : Text)
  | repeated (argument : Text)
  | invalid (value argument reason : Text)
  | noResponses
  deriving Repr, DecidableEq

def UsageError.message : UsageError → Text
  | help => []
  | version => []
  | unknown argument => "unexpected argument '".toList ++ argument ++ "' found".toList
  | unwantedValue value argument =>
    "unexpected value '".toList ++ value ++ "' for '".toList ++ argument ++
      "' found; no more were expected".toList
  | missingValue argument =>
    "a value is required for '".toList ++ argument ++ "' but none was supplied".toList
  | repeated argument =>
    "the argument '".toList ++ argument ++ "' cannot be used multiple times".toList
  | invalid value argument reason =>
    "invalid value '".toList ++ value ++ "' for '".toList ++ argument ++ "': ".toList ++ reason
  | noResponses => "the following required arguments were not provided:".toList

/-- What a command line asks for. -/
structure Arguments where
  /-- The files of responses; the first is from the preferred client. -/
  responses : List Text := []
  script : Option Text := none
  video : Option Text := none
  playerUrl : Option Text := none
  engine : Option Text := none
  engineArguments : List Text := []
  worker : Option Text := none
  workerKey : Option Text := none
  cacheDirectory : Option Text := none
  givenTimeout : Option Duration := none
  switches : List Switch := []
  deriving Repr, DecidableEq

namespace Arguments

def has (arguments : Arguments) (switch : Switch) : Bool := arguments.switches.contains switch

/-- The time for runs of engines and for downloads. -/
def timeout (arguments : Arguments) : Duration := arguments.givenTimeout.getD (.ofSeconds 30)

/-- Quiet wins over verbose. -/
def isQuiet (arguments : Arguments) : Bool := arguments.has .quiet

def isVerbose (arguments : Arguments) : Bool := !arguments.isQuiet && arguments.has .verbose

/-- The address of the script for warnings. -/
def shownPlayerUrl (arguments : Arguments) : Text :=
  (arguments.playerUrl.or (arguments.script.filter Address.isRemote)).getD []

/-- The first value of an option; a second one is refused. -/
def once (option : Valued) (present : Option α) (value : Except UsageError α) :
    Except UsageError (Option α) :=
  if present.isSome then .error (.repeated option.shown) else value.map some

/-- A path may not be empty. -/
def path (shown value : Text) : Except UsageError Text :=
  if value.isEmpty then .error (.missingValue shown) else .ok value

/-- The span of time that a value gives. -/
def duration (shown value : Text) : Except UsageError Duration :=
  (Duration.read value).mapError fun error => .invalid value shown error.message

/-- The arguments with a value for an option. -/
def put (arguments : Arguments) (option : Valued) (value : Text) : Except UsageError Arguments := do
  match option with
  | .script => return { arguments with script := ← once option arguments.script (.ok value) }
  | .video => return { arguments with video := ← once option arguments.video (.ok value) }
  | .playerUrl =>
    return { arguments with playerUrl := ← once option arguments.playerUrl (.ok value) }
  | .engine => return { arguments with engine := ← once option arguments.engine (.ok value) }
  | .engineArgument =>
    return { arguments with engineArguments := arguments.engineArguments ++ [value] }
  | .worker => return { arguments with worker := ← once option arguments.worker (.ok value) }
  | .workerKey =>
    return { arguments with workerKey := ← once option arguments.workerKey (.ok value) }
  | .cacheDirectory =>
    return { arguments with
      cacheDirectory := ← once option arguments.cacheDirectory (path option.shown value) }
  | .timeout =>
    return { arguments with
      givenTimeout := ← once option arguments.givenTimeout (duration option.shown value) }

/-- The arguments with a switch. Asking for help or the version ends the reading. -/
def flip (arguments : Arguments) (switch : Switch) : Except UsageError Arguments :=
  match switch with
  | .help => .error .help
  | .version => .error .version
  | other =>
    if arguments.has other then .error (.repeated other.shown)
    else .ok { arguments with switches := arguments.switches ++ [other] }

end Arguments

/-- What has been read but not been looked at yet. -/
inductive Pending where
  | nothing
  | files (paths : List Text)
  /-- An option, with its value once it has come. -/
  | option (option : Valued) (value : Option Text)
  deriving Repr, DecidableEq

/-- How far the reading has come. -/
structure Progress where
  arguments : Arguments := {}
  pending : Pending := .nothing
  /-- All that follows are files. -/
  literal : Bool := false
  deriving Repr, DecidableEq

namespace Progress

/-- Looks at what is pending. -/
def settle (progress : Progress) : Except UsageError Progress := do
  match progress.pending with
  | .nothing => return progress
  | .files paths =>
    let paths ← paths.mapM (Arguments.path responsesShown)
    return { progress with
      arguments := { progress.arguments with responses := progress.arguments.responses ++ paths }
      pending := .nothing }
  | .option option none => throw (.missingValue option.shown)
  | .option option (some value) =>
    return { progress with arguments := ← progress.arguments.put option value, pending := .nothing }

/-- Goes on with a switch. -/
def flip (progress : Progress) (switch : Switch) : Except UsageError Progress := do
  let progress ← progress.settle
  return { progress with arguments := ← progress.arguments.flip switch }

/-- Goes on with an option whose value is attached. -/
def put (progress : Progress) (option : Valued) (value : Text) : Except UsageError Progress := do
  let progress ← progress.settle
  return { progress with arguments := ← progress.arguments.put option value }

/-- Goes on with an option whose value is still to come. -/
def expect (progress : Progress) (option : Valued) : Except UsageError Progress := do
  let progress ← progress.settle
  return { progress with pending := .option option none }

/-- Goes on with a file. -/
def file (progress : Progress) (path : Text) : Except UsageError Progress :=
  match progress.pending with
  | .files paths => .ok { progress with pending := .files (paths ++ [path]) }
  | _ => do
    let progress ← progress.settle
    return { progress with pending := .files [path] }

/-- Goes on with an argument that looks like no option. -/
def plain (progress : Progress) (argument : Text) : Except UsageError Progress :=
  match progress.pending with
  | .option option none => .ok { progress with pending := .option option (some argument) }
  | _ => progress.file argument

/-- The name of a long option, and the value behind its first equals sign. -/
def nameAndValue (text : Text) : Text × Option Text :=
  match Text.cut ['='] text with
  | some (name, value) => (name, some value)
  | none => (text, none)

/-- Goes on with a long option, without its hyphens. -/
def long (progress : Progress) (text : Text) : Except UsageError Progress :=
  let (name, value) := nameAndValue text
  match named? name, value with
  | none, _ => .error (.unknown ("--".toList ++ name))
  | some (.valued option), some value => progress.put option value
  | some (.valued option), none => progress.expect option
  | some (.switch switch), some value => .error (.unwantedValue value switch.shown)
  | some (.switch switch), none => progress.flip switch

/-- Goes on with letters. One that takes a value takes all behind it, less an equals sign. -/
def letters (progress : Progress) : Text → Except UsageError Progress
  | [] => .ok progress
  | letter :: rest =>
    match lettered? letter with
    | none => .error (.unknown ['-', letter])
    | some (.switch switch) => do
      let progress ← progress.flip switch
      letters progress rest
    | some (.valued option) =>
      match rest with
      | [] => progress.expect option
      | '=' :: value => progress.put option value
      | value => progress.put option value

/-- Goes on with an argument. -/
def step (progress : Progress) (argument : Text) : Except UsageError Progress :=
  let waitsForAnything := match progress.pending with
    | .option option none => option.takesAnything
    | _ => false
  if progress.literal then progress.file argument
  else if waitsForAnything then progress.plain argument
  else
    match argument with
    | ['-', '-'] => .ok { progress with literal := true }
    | '-' :: '-' :: text => progress.long text
    | '-' :: letter :: rest => progress.letters (letter :: rest)
    | _ => progress.plain argument

end Progress

/-- Reads a command line. -/
def read (commandLine : List Text) : Except UsageError Arguments := do
  let progress ← commandLine.foldlM Progress.step {}
  let progress ← progress.settle
  if progress.arguments.responses.isEmpty then throw .noResponses
  return progress.arguments

namespace Arguments

/-- Lays the arguments over settings, which are not checked. -/
def appliedTo (arguments : Arguments) (settings : Settings) : Settings :=
  let settings := { settings with
    executionTimeout := arguments.timeout, downloadTimeout := arguments.timeout }
  let key := arguments.workerKey.getD []
  let settings := match arguments.worker, arguments.engine with
    | some endpoint, _ => settings.withWorker endpoint key
    | none, some place =>
      if Address.isRemote place then settings.withWorker place key
      else { settings with enginePath := some place }
    | none, none => settings
  let settings := if arguments.has .uncompressed then settings.withCompression false else settings
  let settings := if arguments.engineArguments.isEmpty then settings
    else { settings with engineArguments := some arguments.engineArguments }
  let settings := if arguments.has .unbatched then settings.withSolver false else settings
  match arguments.cacheDirectory with
  | some path => settings.withCacheDirectory path
  | none => settings

/-- The settings of the environment with the arguments laid over them. Both have to work. -/
def settings (arguments : Arguments) (environment : Text → Option Text)
    (isDirectory : Text → Bool) : Except SettingsError Settings := do
  let settings ← Settings.ofEnvironment environment isDirectory
  (arguments.appliedTo settings).checked isDirectory

end Arguments
end StreamLinks.CommandLine
