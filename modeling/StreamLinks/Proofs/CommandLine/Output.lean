import StreamLinks.CommandLine.Session
import StreamLinks.Proofs.Text.Splitting
/-!
What a call writes to its two streams when it is asked for JSON.

All that stands beside the links is left out then, so the standard output holds the document or nothing.
Whatever a call warns of, and the failure with which it ends, stands among the errors.
-/
namespace StreamLinks.CommandLine

-- How a call ends: with a failure or with links. Whether no script was asked for is known only once the
-- call is prepared.
inductive Ends (surroundings : Surroundings) (arguments : Arguments) (world : World) :
    (scriptless : Bool) → Except SessionError LinkSet → World → Prop where
  | unprepared {error : SessionError} (failed : Session.prepare surroundings arguments = .error error) :
      Ends surroundings arguments world false (.error error) world
  | unloaded {session : Session} {error : SessionError} {trace : Trace}
      (prepared : Session.prepare surroundings arguments = .ok session)
      (failed : session.script surroundings world.trace = (.error error, trace)) :
      Ends surroundings arguments world false (.error error) { world with trace }
  | unresolved {session : Session} {script : Option Text} {trace : Trace} {failure : Failure}
      {after : World} (prepared : Session.prepare surroundings arguments = .ok session)
      (loaded : session.script surroundings world.trace = (.ok script, trace))
      (failed : (session.resolver surroundings script).resolveVideo session.responses session.video
        { world with trace } = (.error failure, after)) :
      Ends surroundings arguments world script.isNone (.error (.other failure)) after
  | resolved {session : Session} {script : Option Text} {trace : Trace} {set : LinkSet} {after : World}
      (prepared : Session.prepare surroundings arguments = .ok session)
      (loaded : session.script surroundings world.trace = (.ok script, trace))
      (answered : (session.resolver surroundings script).resolveVideo session.responses session.video
        { world with trace } = (.ok set, after)) :
      Ends surroundings arguments world script.isNone (.ok set) after

-- The text on the standard output, the closing line included.
def Outcome.written (outcome : Outcome) (coloured : Bool) (arguments : Arguments) (elapsed : Duration) :
    Text :=
  printed outcome.output ++ printed (outcome.closing coloured arguments elapsed)

def scriptlessWarnings (coloured : Bool) (arguments : Arguments) (scriptless : Bool) : List Text :=
  if scriptless then warningLines coloured arguments
    "No --player-js given; ciphered formats will not be decoded".toList else []

def decodeWarnings (coloured : Bool) (arguments : Arguments) (set : LinkSet) : List Text :=
  if set.warnedCount = 0 then [] else warningLines coloured arguments
    (Text.ofNat set.warnedCount ++ " formats carry decode warnings".toList)

section json
variable {coloured : Bool} {arguments : Arguments}

theorem aside_json (json : arguments.has .json = true) (line : Text) : aside arguments line = [] := by
  unfold aside
  rw [json, Bool.or_true, if_pos rfl]

theorem scriptOutput_json (json : arguments.has .json = true) (script : Option Text) :
    scriptOutput coloured arguments script = [] := by
  cases script with
  | none => rfl
  | some script =>
    unfold scriptOutput
    dsimp only
    rw [aside_json json, ite_self]

theorem closing_json (json : arguments.has .json = true) (outcome : Outcome) (elapsed : Duration) :
    outcome.closing coloured arguments elapsed = [] := by
  unfold Outcome.closing
  cases outcome.resolved with
  | none => rfl
  | some count => exact aside_json json _

-- The lines of the document are printed as the document.
theorem printed_linkOutput (json : arguments.has .json = true) (set : LinkSet) :
    printed (linkOutput coloured arguments set) = set.toJson.pretty 0 ++ ['\n'] := by
  unfold linkOutput printed
  rw [if_pos json, Text.flatMap_splitAtChar]

theorem scriptWarnings_eq (script : Option Text) :
    scriptWarnings coloured arguments script = scriptlessWarnings coloured arguments script.isNone := by
  cases script <;> rfl

end json

theorem run_json (surroundings : Surroundings) (coloured : Bool) {arguments : Arguments} (world : World)
    (json : arguments.has .json = true) :
    ∃ scriptless result, Ends surroundings arguments world scriptless result
      (run surroundings coloured arguments world).2 ∧
      (run surroundings coloured arguments world).1 = match result with
        | .ok set =>
          { output := linkOutput coloured arguments set
            errors := scriptlessWarnings coloured arguments scriptless ++
              decodeWarnings coloured arguments set
            resolved := some set.links.length }
        | .error error =>
          { errors := scriptlessWarnings coloured arguments scriptless ++
              [errorLine coloured error.message]
            status := 1 } := by
  unfold run
  cases prepared : Session.prepare surroundings arguments with
  | error error => exact ⟨_, _, .unprepared prepared, rfl⟩
  | ok session =>
    simp only [aside_json json, scriptOutput_json json, scriptWarnings_eq, List.nil_append]
    cases loading : session.script surroundings world.trace with
    | mk loaded trace =>
      cases loaded with
      | error error => exact ⟨_, _, .unloaded prepared loading, rfl⟩
      | ok script =>
        dsimp only
        cases answer : (session.resolver surroundings script).resolveVideo session.responses session.video
          { world with trace } with
        | mk result after =>
          cases result with
          | error failure => exact ⟨_, _, .unresolved prepared loading answer, rfl⟩
          | ok set => exact ⟨_, _, .resolved prepared loading answer, rfl⟩

theorem json_output (surroundings : Surroundings) (coloured : Bool) (arguments : Arguments)
    (json : arguments.has .json = true) (world : World) (elapsed : Duration) :
    ((run surroundings coloured arguments world).1.status = 0 → ∃ scriptless set,
      Ends surroundings arguments world scriptless (.ok set)
        (run surroundings coloured arguments world).2 ∧
      (run surroundings coloured arguments world).1.written coloured arguments elapsed =
        set.toJson.pretty 0 ++ ['\n'] ∧
      (run surroundings coloured arguments world).1.errors =
        scriptlessWarnings coloured arguments scriptless ++ decodeWarnings coloured arguments set) ∧
    ((run surroundings coloured arguments world).1.status ≠ 0 → ∃ scriptless error,
      Ends surroundings arguments world scriptless (.error error)
        (run surroundings coloured arguments world).2 ∧
      (run surroundings coloured arguments world).1.written coloured arguments elapsed = [] ∧
      (run surroundings coloured arguments world).1.errors =
        scriptlessWarnings coloured arguments scriptless ++ [errorLine coloured error.message]) := by
  obtain ⟨scriptless, result, ends, outcome⟩ := run_json surroundings coloured world json
  cases result with
  | error error =>
    rw [outcome]
    refine ⟨?_, fun _ => ⟨scriptless, error, ends, ?_, rfl⟩⟩
    · intro ended
      cases ended
    · rw [Outcome.written, closing_json json]
      rfl
  | ok set =>
    rw [outcome]
    refine ⟨fun _ => ⟨scriptless, set, ends, ?_, rfl⟩, fun ended => absurd rfl ended⟩
    rw [Outcome.written, closing_json json, printed_linkOutput json]
    exact List.append_nil _

-- A file with an answer about a video without streams.
def plainSurroundings : Surroundings where
  server := fun _ _ => .unreachable []
  contents := fun _ => .ok "\x7b\"videoDetails\":\x7b\"videoId\":\"a\"\x7d\x7d".toList
  isFile := fun _ => false
  isDirectory := fun _ => false
  barred := fun _ => none
  program := fun _ => .error []
  environment := fun _ => none
  home := none
  scratch := []

def verboseJson : Arguments := { responses := ["r.json".toList], switches := [.json, .verbose] }

theorem json_output_verbose : ∃ set : LinkSet,
    (run plainSurroundings false verboseJson {}).1.written false verboseJson ⟨0⟩ =
      set.toJson.pretty 0 ++ ['\n'] := by
  have ended : (run plainSurroundings false verboseJson {}).1.status = 0 := by decide +kernel
  obtain ⟨_, set, -, written, -⟩ := (json_output plainSurroundings false verboseJson rfl {} ⟨0⟩).1 ended
  exact ⟨set, written⟩

end StreamLinks.CommandLine
