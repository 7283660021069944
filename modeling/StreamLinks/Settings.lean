import StreamLinks.Duration.Basic
import StreamLinks.Engine.Remote
import StreamLinks.Stream.Address
/-!
Settings: their defaults, where they come from, and which of them cannot work.
-/
namespace StreamLinks

/-- Where the batch solver gets its helpers from. -/
structure SolverSettings where
  enabled : Bool
  libraryUrl : Text
  coreUrl : Text
  manifestUrl : Text
  /-- Where verified helpers are kept; the directory for scratch files if there is no other. -/
  cacheDirectory : Option Text := none
  deriving Repr, DecidableEq

structure Settings where
  /-- An engine, or a directory to look for one in. -/
  enginePath : Option Text := none
  /-- The arguments of a local engine in place of the known ones. -/
  engineArguments : Option (List Text) := none
  /-- A worker; it comes before any local engine. -/
  worker : Option Worker := none
  /-- The directory for scratch files. -/
  scratch : Option Text := none
  /-- The time that an engine has for one run. -/
  executionTimeout : Duration
  /-- The time that a server has for one answer. -/
  downloadTimeout : Duration
  /-- What servers are told about their client. -/
  userAgent : Text
  solver : SolverSettings
  deriving Repr, DecidableEq

/-- How requests are made. -/
structure ClientSettings where
  timeout : Duration
  userAgent : Option Text
  /-- Compressed answers are asked for and undone. -/
  compressed : Bool
  deriving Repr, DecidableEq

/-- Why settings cannot work. -/
inductive SettingsError where
  | notRemote (endpoint : Text)
  | missingKey
  | noDirectory (path : Text)
  | noTime
  deriving Repr, DecidableEq

def SettingsError.message : SettingsError → Text
  | notRemote endpoint => "Remote runtime must be an http(s) URL: ".toList ++ endpoint
  | missingKey => "JS runtime error: API key required".toList
  | noDirectory path => path ++ ": No such directory".toList
  | noTime => "Execution timeout must be positive".toList

def SettingsError.failure (error : SettingsError) : Failure := .own .configuration error.message

namespace Settings

/-- Where the helpers of the batch solver are published. -/
def helperBase : Text :=
  "https://github.com/kclauhk/yt-solver/raw/refs/heads/main/js".toList

def defaultUserAgent : Text :=
  "Mozilla/5.0 (Windows NT 10.0; Win64; x64) AppleWebKit/537.36 (KHTML, like Gecko) ".toList ++
    "Chrome/120.0.0.0 Safari/537.36".toList

/-- The settings when nothing is set. -/
def default : Settings :=
  { executionTimeout := .ofSeconds 30
    downloadTimeout := .ofSeconds 30
    userAgent := defaultUserAgent
    solver := {
      enabled := true
      libraryUrl := helperBase ++ "/lib.json".toList
      coreUrl := helperBase ++ "/yt.solver.core.js".toList
      manifestUrl := helperBase ++ "/_hashes.json".toList } }

/-- The settings of requests for scripts and helpers. -/
def downloads (settings : Settings) : ClientSettings :=
  ⟨settings.downloadTimeout, some settings.userAgent, true⟩

/-- The settings of requests to a worker, whose answers are uncompressed by their reader. -/
def posts (settings : Settings) : ClientSettings :=
  ⟨settings.executionTimeout, some settings.userAgent, false⟩

/-- The first reason why the settings cannot work. -/
def check (settings : Settings) (isDirectory : Text → Bool) : Except SettingsError Unit := do
  if let some worker := settings.worker then
    if !Address.isRemote worker.endpoint then throw (.notRemote worker.endpoint)
    if worker.key.isEmpty then throw .missingKey
  if let some path := settings.scratch then
    if !isDirectory path then throw (.noDirectory path)
  if settings.executionTimeout.nanos = 0 then throw .noTime

/-- The settings if they can work. -/
def checked (settings : Settings) (isDirectory : Text → Bool) : Except SettingsError Settings :=
  (settings.check isDirectory).map fun _ => settings

/-- The settings with a worker. -/
def withWorker (endpoint key : Text) (settings : Settings) : Settings :=
  { settings with worker := some { endpoint, key } }

/-- The settings with compression for the worker, if there is one, or without. -/
def withCompression (compressed : Bool) (settings : Settings) : Settings :=
  { settings with worker := settings.worker.map fun worker => { worker with compressed } }

/-- The settings with or without the batch solver. -/
def withSolver (enabled : Bool) (settings : Settings) : Settings :=
  { settings with solver := { settings.solver with enabled } }

def withCacheDirectory (path : Text) (settings : Settings) : Settings :=
  { settings with solver := { settings.solver with cacheDirectory := some path } }

/-- Words that mean yes, in any case. -/
def affirmations : List Text := ["1".toList, "true".toList, "yes".toList]

/-- The variables that settings come from. -/
def variableNames : List Text :=
  ["RYT_JS_RUNTIME", "RYT_JS_REMOTE_URL", "RYT_JS_REMOTE_KEY", "RYT_TEMP_DIR",
    "RYT_SOLVER_CACHE_DIR", "RYT_DISABLE_SOLVER"].map String.toList

/-- The value of a variable, unless it is blank. -/
def present? (environment : Text → Option Text) (name : String) : Option Text :=
  (environment name.toList).filter fun value => !(Text.trim value).isEmpty

/-- The settings that variables give, which are not checked. -/
def ofVariables (environment : Text → Option Text) : Settings :=
  let get := present? environment
  let key := (get "RYT_JS_REMOTE_KEY").getD []
  let settings := match get "RYT_JS_RUNTIME" with
    | some place =>
      if Address.isRemote place then default.withWorker place key
      else { default with enginePath := some place }
    | none => default
  let settings := match get "RYT_JS_REMOTE_URL" with
    | some endpoint => settings.withWorker endpoint key
    | none => settings
  let settings := { settings with scratch := get "RYT_TEMP_DIR" }
  let settings := match get "RYT_SOLVER_CACHE_DIR" with
    | some path => settings.withCacheDirectory path
    | none => settings
  match get "RYT_DISABLE_SOLVER" with
  | some flag => settings.withSolver (!affirmations.contains (Text.lower flag))
  | none => settings

/-- The settings that variables give. -/
def ofEnvironment (environment : Text → Option Text) (isDirectory : Text → Bool) :
    Except SettingsError Settings :=
  (ofVariables environment).checked isDirectory

end Settings
end StreamLinks
