import StreamLinks.CommandLine.Arguments
import StreamLinks.Engine.Choice
import StreamLinks.Player.VideoId
import StreamLinks.Report.Listing
import StreamLinks.Stream.Resolve
/-!
One call of the command line: reads responses and a script, resolves the links, and prints them.
-/
namespace StreamLinks

/-- The text of a script from a server or from a file. -/
def loadScript (surroundings : Surroundings) (location : Text) : Traced Text := fun trace =>
  if Address.isRemote location then Http.fetch surroundings.server location trace
  else ((surroundings.contents location).mapError Failure.file, trace)

namespace CommandLine

/-- Why a call ends before there are links. -/
inductive SessionError where
  | unreadable (path cause : Text)
  | malformed (path : Text)
  | noVideo
  | noScript (location : Text) (failure : Failure)
  | other (failure : Failure)
  deriving Repr, DecidableEq

namespace SessionError

/-- The failure and its causes. -/
def chain : SessionError → List Text
  | unreadable path cause => ["Failed to read ".toList ++ path, cause]
  | malformed path =>
    ("Invalid player response in ".toList ++ path) :: (Failure.document HelperSource.malformed).chain
  | noVideo =>
    ["No --video-id given and the first response has no videoDetails.videoId".toList]
  | noScript location failure =>
    ("Failed to load player script ".toList ++ location) :: failure.chain
  | other failure => failure.chain

def message (error : SessionError) : Text := Text.join ": ".toList error.chain

end SessionError

/-- The responses in files, in their order. -/
def readResponses (surroundings : Surroundings) (paths : List Text) :
    Except SessionError (List PlayerResponse) :=
  paths.mapM fun path =>
    match surroundings.contents path with
    | .error cause => .error (.unreadable path cause)
    | .ok document =>
      match PlayerResponse.read document with
      | none => .error (.malformed path)
      | some response => .ok response

/-- The video that was asked for, or that of the first response. -/
def chooseVideo (arguments : Arguments) (responses : List PlayerResponse) :
    Except SessionError Text :=
  match arguments.video with
  | some text => (VideoId.read text).mapError fun error => .other error.failure
  | none =>
    match responses.head?.bind (·.video) with
    | some video => .ok video
    | none => .error .noVideo

/-- All that is known before a script is loaded. -/
structure Session where
  arguments : Arguments
  responses : List PlayerResponse
  video : Text
  settings : Settings
  runtime : Runtime

/-- What a call prints and how it ends. -/
structure Outcome where
  output : List Text := []
  errors : List Text := []
  status : Nat := 0
  /-- How many links were found; it is told at the end, together with the time that it took. -/
  resolved : Option Nat := none
  deriving Repr, DecidableEq

namespace Session

/-- Gathers what is needed, in the order in which failures are told. -/
def prepare (surroundings : Surroundings) (arguments : Arguments) :
    Except SessionError Session := do
  let responses ← readResponses surroundings arguments.responses
  let video ← chooseVideo arguments responses
  let settings ← (arguments.settings surroundings.environment surroundings.isDirectory).mapError
    fun error => SessionError.other error.failure
  return { arguments, responses, video, settings, runtime := .ofSettings surroundings settings }

/-- The script that was asked for. -/
def script (session : Session) (surroundings : Surroundings) :
    Trace → Except SessionError (Option Text) × Trace := fun trace =>
  match session.arguments.script with
  | none => (.ok none, trace)
  | some location =>
    match loadScript surroundings location trace with
    | (.ok script, trace) => (.ok (some script), trace)
    | (.error failure, trace) => (.error (.noScript location failure), trace)

/-- The batch solver, if it is wanted. -/
def solver (session : Session) (surroundings : Surroundings) : Option Solver :=
  let settings := session.settings.solver
  if settings.enabled then
    some {
      source := {
        server := surroundings.server
        libraryUrl := settings.libraryUrl
        coreUrl := settings.coreUrl
        manifestUrl := settings.manifestUrl }
      runtime := session.runtime }
  else none

/-- What links are made with. -/
def resolver (session : Session) (surroundings : Surroundings) (script : Option Text) : Resolver :=
  { decoder := script.map (Decoder.ofScript · session.runtime)
    solver := session.solver surroundings
    playerUrl := session.arguments.shownPlayerUrl }

end Session

/-- A line with a label in front. -/
def labelled (coloured : Bool) (paints : List Paint) (label : String) (text : Text) : Text :=
  Paint.apply coloured paints label.toList ++ ' ' :: text

def errorLine (coloured : Bool) (text : Text) : Text :=
  labelled coloured [.bold, .red] "error:" text

/-- Warnings are kept back in quiet calls. -/
def warningLines (coloured : Bool) (arguments : Arguments) (text : Text) : List Text :=
  if arguments.isQuiet then [] else [labelled coloured [.bold, .yellow] "warning:" text]

/-- Lines beside the links: none in quiet calls or among JSON. -/
def aside (arguments : Arguments) (line : Text) : List Text :=
  if arguments.isQuiet || arguments.has .json then [] else [line]

def Arguments.verbosity (arguments : Arguments) : Verbosity :=
  if arguments.isQuiet then .quiet else if arguments.isVerbose then .verbose else .normal

/-- The lines of the links. -/
def linkOutput (coloured : Bool) (arguments : Arguments) (set : LinkSet) : List Text :=
  if arguments.has .json then Text.splitAtChar '\n' (set.toJson.pretty 0)
  else set.lines coloured arguments.verbosity

/-- What is told of a script before it is used. -/
def scriptOutput (coloured : Bool) (arguments : Arguments) : Option Text → List Text
  | some script =>
    if arguments.isVerbose then
      aside arguments (labelled coloured [.dimmed] "debug:"
        ("Player script: ".toList ++ Text.ofNat (Text.toBytes script).length ++ " bytes".toList))
    else []
  | none => []

/-- What is told of a missing script. -/
def scriptWarnings (coloured : Bool) (arguments : Arguments) : Option Text → List Text
  | some _ => []
  | none => warningLines coloured arguments
      "No --player-js given; ciphered formats will not be decoded".toList

/-- Makes a call. -/
def run (surroundings : Surroundings) (coloured : Bool) (arguments : Arguments) (world : World) :
    Outcome × World :=
  match Session.prepare surroundings arguments with
  | .error error => ({ errors := [errorLine coloured error.message], status := 1 }, world)
  | .ok session =>
    let greeting := aside arguments (labelled coloured [.bold, .cyan] "info:"
      ("JS runtime: ".toList ++ session.runtime.describe))
    match session.script surroundings world.trace with
    | (.error error, trace) =>
      ({ output := greeting, errors := [errorLine coloured error.message], status := 1 },
        { world with trace })
    | (.ok script, trace) =>
      let output := greeting ++ scriptOutput coloured arguments script
      let warnings := scriptWarnings coloured arguments script
      match (session.resolver surroundings script).resolveVideo session.responses session.video
          { world with trace } with
      | (.error failure, world) =>
        let error := SessionError.other failure
        ({ output, errors := warnings ++ [errorLine coloured error.message], status := 1 }, world)
      | (.ok set, world) =>
        let warned := if set.warnedCount = 0 then [] else warningLines coloured arguments
          (Text.ofNat set.warnedCount ++ " formats carry decode warnings".toList)
        ({ output := output ++ linkOutput coloured arguments set
           errors := warnings ++ warned
           resolved := some set.links.length }, world)

/-- The text of lines, as it is printed. -/
def printed (lines : List Text) : Text := lines.flatMap (· ++ ['\n'])

/-- The line that ends a call, with the time that it took. -/
def Outcome.closing (outcome : Outcome) (coloured : Bool) (arguments : Arguments)
    (elapsed : Duration) : List Text :=
  match outcome.resolved with
  | some count => aside arguments (labelled coloured [.bold, .green] "done:"
      (Text.ofNat count ++ " formats resolved in ".toList ++ elapsed.toText))
  | none => []

end CommandLine
end StreamLinks
