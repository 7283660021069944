import StreamLinks.Failure
/-!
What outlasts a call: the history of everything that was asked of the outside, and what is kept for
later calls.
-/
namespace StreamLinks

/-- The scripts that solve challenges in one batch. -/
structure Helpers where
  library : Text
  core : Text
  deriving Repr, DecidableEq

/-- One run of a local engine: its arguments without the scratch file, and the scratch file's
content. -/
structure Run where
  arguments : List Text
  source : Text
  deriving Repr, DecidableEq

/-- What went out to servers and local engines. -/
structure Trace where
  /-- The requests that reached a server, oldest first. -/
  requests : List Http.Request := []
  /-- The runs of a local engine, oldest first. -/
  runs : List Run := []
  /-- The outcome of the probe of a remote engine once it has been made: nothing if the engine is
  alive, else why it is not. -/
  probe : Option (Option Text) := none
  deriving Repr, DecidableEq

/-- The trace after a request reached a server. -/
def Trace.asked (trace : Trace) (request : Http.Request) : Trace :=
  { trace with requests := trace.requests ++ [request] }

/-- The trace after a run of a local engine. -/
def Trace.ran (trace : Trace) (run : Run) : Trace := { trace with runs := trace.runs ++ [run] }

structure World where
  /-- The sources given to an engine, oldest first. -/
  codes : List Text := []
  trace : Trace := {}
  /-- The files of the helper cache. -/
  cache : List (Text × Text) := []
  /-- The helper scripts once they have been verified. -/
  helpers : Option Helpers := none
  deriving Repr, DecidableEq

/-- A step outside: its outcome and the trace that it leaves. -/
abbrev Traced (α : Type) := Trace → Except Failure α × Trace

/-- A call: its outcome and what it leaves behind. -/
abbrev Call (α : Type) := World → Except Failure α × World

namespace World

/-- The world after a source was given to an engine. -/
def ran (world : World) (code : Text) : World := { world with codes := world.codes ++ [code] }

/-- A step outside as a call. -/
def outside (step : Traced α) : Call α := fun world =>
  match step world.trace with
  | (outcome, trace) => (outcome, { world with trace })

/-- The content of a cached file. -/
def cached? (world : World) (name : Text) : Option Text := world.cache.lookup name

/-- The world with a cached file written. -/
def store (world : World) (name content : Text) : World :=
  { world with cache := (name, content) :: world.cache.filter fun (key, _) => key != name }

theorem cached?_store (world : World) (name content : Text) :
    (world.store name content).cached? name = some content := by
  simp [cached?, store]

theorem cached?_store_of_ne (world : World) {name other : Text} (content : Text)
    (different : other ≠ name) : (world.store name content).cached? other = world.cached? other := by
  have skip : (other == name) = false := by simpa using different
  simp only [cached?, store, List.lookup_cons, skip]
  induction world.cache with
  | nil => rfl
  | cons entry entries ih =>
    obtain ⟨key, value⟩ := entry
    by_cases same : key = name
    · subst same
      simp [List.lookup_cons, skip, ih]
    · by_cases found : other = key
      · subst found; simp [same]
      · simp [same, List.lookup_cons, ih]

end World
end StreamLinks
