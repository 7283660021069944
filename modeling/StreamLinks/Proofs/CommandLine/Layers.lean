import StreamLinks.CommandLine.Arguments
/-!
Which engine the settings lead to when the command line and the environment both name some.

A worker goes before an engine on this machine, wherever each of them is named. The command line replaces the
worker of the environment by one of its own but cannot take it back: an engine of the command line stands beside
it, and a key of the command line without a worker of its own is left out.
-/
namespace StreamLinks

namespace Settings
variable {isDirectory : Text → Bool} {settings accepted : Settings}

-- Where the worker of the environment is.
def workerPlace? (environment : Text → Option Text) : Option Text :=
  (present? environment "RYT_JS_REMOTE_URL").or
    ((present? environment "RYT_JS_RUNTIME").filter Address.isRemote)

def workerKey (environment : Text → Option Text) : Text := (present? environment "RYT_JS_REMOTE_KEY").getD []

theorem eq_of_checked (works : settings.checked isDirectory = .ok accepted) : accepted = settings := by
  unfold checked at works
  cases checks : settings.check isDirectory with
  | error error =>
    rw [checks] at works
    cases works
  | ok _ =>
    rw [checks] at works
    cases works
    rfl

theorem ofVariables_worker (environment : Text → Option Text) : (ofVariables environment).worker =
    (workerPlace? environment).map fun endpoint => { endpoint, key := workerKey environment } := by
  unfold ofVariables workerPlace?
  extract_lets get key plain placed named scratched cached
  have placedWorker : placed.worker = ((present? environment "RYT_JS_RUNTIME").filter Address.isRemote).map
      fun endpoint => { endpoint, key } := by
    cases given : present? environment "RYT_JS_RUNTIME" with
    | none => simp only [placed, get, given]; rfl
    | some place =>
      cases remote : Address.isRemote place <;>
        simp only [placed, get, given, remote, Option.filter_some, Bool.false_eq_true, ↓reduceIte] <;> rfl
  have namedWorker : named.worker = ((present? environment "RYT_JS_REMOTE_URL").or
      ((present? environment "RYT_JS_RUNTIME").filter Address.isRemote)).map fun endpoint => { endpoint, key } := by
    cases given : present? environment "RYT_JS_REMOTE_URL" with
    | none =>
      simp only [named, get, given]
      exact placedWorker
    | some endpoint => simp only [named, get, given]; rfl
  have cachedWorker : cached.worker = named.worker := by
    cases given : present? environment "RYT_SOLVER_CACHE_DIR" <;> simp only [cached, get, given] <;> rfl
  calc _ = cached.worker := by
        cases given : present? environment "RYT_DISABLE_SOLVER" with
        | none => simp only [get, given]
        | some flag => simp only [get, given, withSolver]
    _ = named.worker := cachedWorker
    _ = _ := namedWorker

end Settings

namespace CommandLine.Arguments
open Settings
variable {arguments : Arguments} {environment : Text → Option Text} {isDirectory : Text → Bool}
  {settings : Settings}

-- Where the worker of the command line is.
def workerPlace? (arguments : Arguments) : Option Text :=
  arguments.worker.or (arguments.engine.filter Address.isRemote)

-- Where its engine is. A worker given as such hides it.
def enginePlace? (arguments : Arguments) : Option Text :=
  if arguments.worker.isSome then none else arguments.engine.filter (!Address.isRemote ·)

-- Behind the place of the engine only the compression still changes anything of it.
theorem appliedTo_target (arguments : Arguments) (settings : Settings) :
    (arguments.appliedTo settings).enginePath = arguments.enginePlace?.or settings.enginePath ∧
    (arguments.appliedTo settings).worker =
      ((arguments.workerPlace?.map fun endpoint => { endpoint, key := arguments.workerKey.getD [] }).or
        settings.worker).map fun worker : Worker =>
          { worker with compressed := worker.compressed && !arguments.has .uncompressed } := by
  unfold appliedTo
  extract_lets timed key placed flagged given batched
  have placedTarget : placed.enginePath = arguments.enginePlace?.or settings.enginePath ∧
      placed.worker = (arguments.workerPlace?.map fun endpoint => { endpoint, key }).or settings.worker := by
    unfold enginePlace? workerPlace?
    cases worker : arguments.worker with
    | some endpoint =>
      simp only [placed, worker]
      exact ⟨rfl, rfl⟩
    | none =>
      cases engine : arguments.engine with
      | none =>
        simp only [placed, worker, engine]
        exact ⟨rfl, rfl⟩
      | some place =>
        cases remote : Address.isRemote place <;>
          simp only [placed, worker, engine, remote, Option.filter_some, Bool.false_eq_true, ↓reduceIte] <;>
          exact ⟨rfl, rfl⟩
  have flaggedTarget : flagged.enginePath = placed.enginePath ∧ flagged.worker = placed.worker.map
      fun worker : Worker => { worker with compressed := worker.compressed && !arguments.has .uncompressed } := by
    cases plain : arguments.has .uncompressed <;> simp [flagged, plain, withCompression]
  have givenTarget : given.enginePath = flagged.enginePath ∧ given.worker = flagged.worker := by
    cases none : arguments.engineArguments.isEmpty <;> simp [given, none]
  have batchedTarget : batched.enginePath = given.enginePath ∧ batched.worker = given.worker := by
    cases unbatched : arguments.has .unbatched <;> simp [batched, unbatched, withSolver]
  rw [← placedTarget.1, ← flaggedTarget.1, ← givenTarget.1, ← batchedTarget.1, ← placedTarget.2, ← flaggedTarget.2,
    ← givenTarget.2, ← batchedTarget.2]
  cases cached : arguments.cacheDirectory <;> exact ⟨rfl, rfl⟩

theorem eq_appliedTo_of_settings (accepted : arguments.settings environment isDirectory = .ok settings) :
    settings = arguments.appliedTo (ofVariables environment) := by
  unfold Arguments.settings at accepted
  cases base : ofEnvironment environment isDirectory with
  | error error =>
    rw [base] at accepted
    cases accepted
  | ok given =>
    rw [base] at accepted
    rw [eq_of_checked accepted, eq_of_checked base]

-- A place on this machine is taken over but leaves the environment's worker where it is, and a key reaches a worker
-- of the command line only.
theorem choices_win_iff (accepted : arguments.settings environment isDirectory = .ok settings) :
    (∀ path, arguments.engine = some path → Address.isRemote path = false → arguments.worker = none →
      settings.enginePath = some path ∧ (settings.worker = none ↔ Settings.workerPlace? environment = none)) ∧
    ∀ key, arguments.workerKey = some key → ∀ worker, settings.worker = some worker →
      (worker.key = key ↔ arguments.workerPlace?.isSome ∨ Settings.workerKey environment = key) := by
  obtain rfl := eq_appliedTo_of_settings accepted
  obtain ⟨path, worker⟩ := appliedTo_target arguments (ofVariables environment)
  rw [path, worker, ofVariables_worker]
  refine ⟨fun path engine near alone => ?_, fun key keyGiven worker chosen => ?_⟩
  · simp [workerPlace?, enginePlace?, engine, near, alone]
  · cases named : arguments.workerPlace? with
    | some endpoint =>
      rw [named, keyGiven] at chosen
      obtain rfl := Option.some.inj chosen
      simp
    | none =>
      rw [named, Option.map_none, Option.none_or, Option.map_map, Option.map_eq_some_iff] at chosen
      obtain ⟨endpoint, -, rfl⟩ := chosen
      simp

theorem choices_win_iff_unopposed :
    let environment := fun name => [("RYT_JS_RUNTIME".toList, "/usr/bin/deno".toList)].lookup name
    (∃ settings,
      Arguments.settings { engine := some "/opt/deno".toList } environment (fun _ => false) = .ok settings ∧
      settings.enginePath = some "/opt/deno".toList ∧ settings.worker = none) ∧
    ∃ settings worker, Arguments.settings
        { worker := some "https://w.example.com".toList, workerKey := some ['k'] } environment (fun _ => false) =
          .ok settings ∧
      settings.worker = some worker ∧ worker.key = ['k'] := by
  intro environment
  refine ⟨⟨_, rfl, ?_⟩, ⟨_, _, rfl, rfl, ?_⟩⟩
  · obtain ⟨path, worker⟩ := (@choices_win_iff { engine := some "/opt/deno".toList } environment
      (fun _ => false) _ rfl).1 "/opt/deno".toList rfl (by decide) rfl
    exact ⟨path, worker.mpr (by decide)⟩
  · exact ((@choices_win_iff { worker := some "https://w.example.com".toList, workerKey := some ['k'] } environment
      (fun _ => false) _ rfl).2 ['k'] rfl _ rfl).mpr (.inl rfl)

-- Beside the worker of the environment an engine of the command line is not used, and neither is a key.
theorem worker_stays :
    let environment := fun name =>
      [("RYT_JS_REMOTE_URL".toList, "https://w.example.com".toList), ("RYT_JS_REMOTE_KEY".toList, ['k'])].lookup name
    let worker : Worker := { endpoint := "https://w.example.com".toList, key := ['k'] }
    (Arguments.settings { engine := some "/opt/deno".toList } environment (fun _ => false)).map Settings.worker =
        .ok (some worker) ∧
      (Arguments.settings { workerKey := some "new".toList } environment (fun _ => false)).map Settings.worker =
        .ok (some worker) :=
  ⟨rfl, rfl⟩

end CommandLine.Arguments
end StreamLinks
