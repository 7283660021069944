import StreamLinks.Challenge.Solver
import StreamLinks.Proofs.Challenge.Loading
import StreamLinks.Proofs.Digest.Lanes
import StreamLinks.Proofs.Engine.Runs
import StreamLinks.Proofs.Json.Compact
/-!
Only verified helpers are run or stored, whatever the server, the engine and the cache hold.

The invariant is carried through every moment of a run. It holds by what was downloaded until then,
so a manifest that changes later does not matter.
-/
namespace StreamLinks

namespace HelperSource
variable {source : HelperSource} {past : List World} {start now : World}

theorem kept_stages (kept : source.Kept start (now :: past)) :
    source.Kept start (source.stages now ++ now :: past) ∧
      ∀ helpers, (source.loadAll now).1 = .ok helpers →
        source.Backs (source.stages now ++ now :: past) helpers := by
  cases fetched : Http.fetch source.server source.manifestUrl now.trace with
  | mk outcome trace =>
    have first : source.Kept start ({ now with trace } :: now :: past) :=
      kept.next ((kept.sound.later _).asked trace)
    cases outcome with
    | error failure =>
      simp only [stages, loadAll, World.outside, fetched]
      exact ⟨first, fun helpers loaded => by cases loaded⟩
    | ok document =>
      cases read : Manifest.read document with
      | none =>
        simp only [stages, loadAll, World.outside, fetched, read]
        exact ⟨first, fun helpers loaded => by cases loaded⟩
      | some manifest =>
        have listed : source.Listed ({ now with trace } :: now :: past) manifest :=
          ⟨document, saw_here (Http.downloaded_of_fetch fetched), read⟩
        have second := first.next (first.sound.loaded listed .library)
        cases library : source.load manifest .library { now with trace } with
        | mk outcome half =>
          rw [library] at second
          cases outcome with
          | error failure =>
            simp only [stages, loadAll, World.outside, fetched, read, library]
            exact ⟨second, fun helpers loaded => by cases loaded⟩
          | ok text =>
            have third := second.next (second.sound.loaded (listed.later _) .core)
            cases core : source.load manifest .core half with
            | mk outcome full =>
              rw [core] at third
              simp only [stages, loadAll, World.outside, fetched, read, library, core]
              refine ⟨third, ?_⟩
              intro helpers loaded
              cases outcome with
              | error failure => cases loaded
              | ok content =>
                cases code : libraryCode? text with
                | none => simp [code] at loaded
                | some program =>
                  simp only [code, Except.ok.injEq] at loaded
                  subst loaded
                  exact ⟨manifest, text, (listed.later _).later _, vouches_of_load library,
                    vouches_of_load core, code⟩

-- The moments in which the helpers are made ready: none if they are.
def loading (source : HelperSource) (world : World) : List World :=
  if world.helpers.isSome then [] else source.stages world

theorem kept_loading (kept : source.Kept start (now :: past)) :
    source.Kept start (source.loading now ++ now :: past) ∧
      source.Sound start (source.loading now ++ now :: past) (source.ready now).2 ∧
      ∀ helpers, (source.ready now).1 = .ok helpers →
        source.Backs (source.loading now ++ now :: past) helpers := by
  cases found : now.helpers with
  | some helpers =>
    simp only [loading, ready, found, Option.isSome_some, if_true, List.nil_append]
    refine ⟨kept, kept.sound, ?_⟩
    intro given same
    cases same
    exact kept.sound.helpers helpers found
  | none =>
    obtain ⟨staged, backed⟩ := kept_stages kept
    have last := source.head?_stages now
    obtain ⟨before, after⟩ := List.head?_eq_some_iff.mp last
    have sound : source.Sound start (source.stages now ++ now :: past) (source.loadAll now).2 := by
      rw [after] at staged ⊢
      exact staged.sound
    simp only [loading, ready, found, Option.isSome_none, Bool.false_eq_true, if_false]
    cases loaded : source.loadAll now with
    | mk outcome world =>
      rw [loaded] at sound backed
      refine ⟨staged, ?_, ?_⟩
      · cases outcome with
        | error failure => exact sound
        | ok helpers => exact sound.settled (backed helpers rfl)
      · intro helpers same
        cases outcome with
        | error failure => cases same
        | ok given => exact backed helpers same

section steps
variable {half after world : World} {trace : Trace} {manifest : Manifest} {file : HelperFile}
  {digest content document text program : Text}

theorem ready_of_ok {helpers : Helpers} (missing : world.helpers = none)
    (loaded : source.loadAll world = (.ok helpers, after)) :
    source.ready world = (.ok helpers, { after with helpers := some helpers }) := by
  simp only [ready, missing, loaded]

-- A helper that is not in the cache, and whose download is the published one.
theorem load_of_fetched (listed : manifest.digest? file = some digest)
    (missing : trusted? world file digest = none)
    (fetched : Http.fetch source.server (source.url file) world.trace = (.ok content, trace))
    (whole : matchesDigest content digest = true) :
    source.load manifest file world =
      (.ok content, { world with trace }.store file.cacheName content) := by
  simp only [load, listed, missing, World.outside, fetched, whole, if_true]

theorem loadAll_of_loads
    (fetched : Http.fetch source.server source.manifestUrl world.trace = (.ok document, trace))
    (read : Manifest.read document = some manifest)
    (library : source.load manifest .library { world with trace } = (.ok text, half))
    (core : source.load manifest .core half = (.ok content, after))
    (code : libraryCode? text = some program) :
    source.loadAll world = (.ok ⟨program, content⟩, after) := by
  simp only [loadAll, World.outside, fetched, read, library, core, code]

end steps

end HelperSource

namespace Solver
variable {solver : Solver} {past : List World} {start now : World}

inductive Use where
  | solve (throttle signature : List Text) (script : Text)
  | trySolve (throttle signature : List Text) (script : Text)

-- The world after a use.
def perform (solver : Solver) : Use → World → World
  | .solve throttle signature script, world => (solver.solve throttle signature script world).2
  | .trySolve throttle signature script, world => (solver.trySolve throttle signature script world).2

-- The moments of a use before its end.
def loading (solver : Solver) (world : World) : List World :=
  if solver.runtime.isAvailable then solver.source.loading world else []

-- All moments of a run, the newest first.
def history (solver : Solver) : List Use → World → List World
  | [], world => [world]
  | use :: uses, world =>
    solver.history uses (solver.perform use world) ++ (solver.loading world ++ [world])

theorem solve_snd (solver : Solver) (throttle signature : List Text) (script : Text)
    (world : World) :
    (solver.solve throttle signature script world).2 =
      (solver.trySolve throttle signature script world).2 := by
  simp only [solve]
  split <;> simp_all

-- Once the helpers are there, one source is run.
theorem trySolve_snd_of_ready {runner : Engine} {helpers : Helpers} {world loaded : World}
    (engine : solver.runtime = .ready runner)
    (readied : solver.source.ready world = (.ok helpers, loaded)) (throttle signature : List Text)
    (script : Text) :
    (solver.trySolve throttle signature script world).2 =
      (runner.call (batch helpers throttle signature script) loaded).2 := by
  rw [← Runtime.runPrepared_snd]
  simp only [trySolve, engine, Runtime.isAvailable, if_true, readied]
  repeat' split
  all_goals simp_all

-- A use readies the helpers, if there is an engine, and then runs at most one source, which begins
-- with them.
theorem trySolve_snd (solver : Solver) (throttle signature : List Text) (script : Text)
    (world : World) :
    (solver.trySolve throttle signature script world).2 = world ∧ solver.runtime.isAvailable = false ∨
      solver.runtime.isAvailable = true ∧
        ((solver.trySolve throttle signature script world).2 = (solver.source.ready world).2 ∨
          ∃ helpers trace, (solver.source.ready world).1 = .ok helpers ∧
            (solver.trySolve throttle signature script world).2 =
              { (solver.source.ready world).2.ran (batch helpers throttle signature script)
                with trace }) := by
  cases engine : solver.runtime with
  | unavailable reason =>
    left
    simp [trySolve, engine, Runtime.isAvailable]
  | ready runner =>
    refine .inr ⟨rfl, ?_⟩
    cases readied : solver.source.ready world with
    | mk outcome loaded =>
      cases outcome with
      | error failure =>
        left
        simp [trySolve, engine, Runtime.isAvailable, readied]
      | ok helpers =>
        exact .inr ⟨helpers, _, rfl, trySolve_snd_of_ready engine readied throttle signature script⟩

-- The first use after a load that succeeds.
theorem perform_of_loadAll {runner : Engine} {helpers : Helpers} {world loaded : World}
    (engine : solver.runtime = .ready runner) (missing : world.helpers = none)
    (called : solver.source.loadAll world = (.ok helpers, loaded)) (throttle signature : List Text)
    (script : Text) : ∃ trace, solver.perform (.solve throttle signature script) world =
      { { loaded with helpers := some helpers }.ran (batch helpers throttle signature script)
        with trace } := by
  rw [perform, solve_snd, trySolve_snd_of_ready engine (HelperSource.ready_of_ok missing called)]
  exact runner.call_snd ..

theorem opening_prefix_batch (helpers : Helpers) (throttle signature : List Text) (script : Text) :
    helpers.opening <+: batch helpers throttle signature script :=
  ((List.prefix_append ..).trans (List.prefix_append ..)).trans (List.prefix_append ..)

-- The step lemma.
theorem kept_trySolve (kept : solver.source.Kept start (now :: past))
    (throttle signature : List Text) (script : Text) :
    solver.source.Kept start
      ((solver.trySolve throttle signature script now).2 :: (solver.loading now ++ now :: past)) := by
  rcases solver.trySolve_snd throttle signature script now with ⟨after, off⟩ | ⟨on, rest⟩
  · rw [after, loading, off]
    exact kept.next (kept.sound.later _)
  · obtain ⟨staged, sound, backed⟩ := HelperSource.kept_loading kept
    rw [loading, on, if_pos rfl]
    apply staged.next
    rcases rest with after | ⟨helpers, trace, loaded, after⟩
    · rw [after]
      exact sound.later _
    · rw [after]
      exact (sound.later _).ran ((backed helpers loaded).later _)
        (opening_prefix_batch helpers throttle signature script) trace

theorem kept_perform (kept : solver.source.Kept start (now :: past)) (use : Use) :
    solver.source.Kept start (solver.perform use now :: (solver.loading now ++ now :: past)) := by
  cases use with
  | solve throttle signature script =>
    rw [perform, solve_snd]
    exact kept_trySolve kept throttle signature script
  | trySolve throttle signature script => exact kept_trySolve kept throttle signature script

-- The run lemma.
theorem kept_history (kept : solver.source.Kept start (now :: past)) (uses : List Use) :
    solver.source.Kept start (solver.history uses now ++ past) := by
  induction uses generalizing now past with
  | nil => exact kept
  | cons use uses ih =>
    have step := ih (kept_perform kept use)
    rwa [history, List.append_assoc, List.append_assoc]

theorem helpers_verified (solver : Solver) (codes : List Text) (trace : Trace)
    (cache : List (Text × Text)) (uses : List Use) :
    let start : World := { codes, trace, cache }
    let source := solver.source
    ∀ now past, now :: past <:+ solver.history uses start →
      (∃ ran, now.codes = codes ++ ran ∧ ∀ code ∈ ran, ∃ manifest library core program,
        source.Listed (now :: past) manifest ∧
          manifest.Vouches .library library ∧ manifest.Vouches .core core ∧
          HelperSource.libraryCode? library = some program ∧
          program ++ "\nObject.assign(globalThis, lib);\n".toList ++ core <+: code) ∧
      ∀ file, now.cached? file.cacheName = start.cached? file.cacheName ∨
        ∃ content, now.cached? file.cacheName = some content ∧
          source.Saw (now :: past) (source.url file) content ∧
          ∃ manifest, source.Listed (now :: past) manifest ∧ manifest.Vouches file content := by
  intro start source now past reached
  have first : source.Kept start [start] :=
    HelperSource.Kept.none.next (HelperSource.Sound.initial source rfl _)
  have kept := kept_history first uses
  rw [List.append_nil] at kept
  obtain ⟨⟨ran, same, each⟩, stored, -⟩ := kept now past reached
  refine ⟨⟨ran, same, ?_⟩, stored⟩
  intro code given
  obtain ⟨helpers, ⟨manifest, library, listed, whole, core, program⟩, begins⟩ := each code given
  exact ⟨manifest, library, helpers.core, helpers.library, listed, whole, core, program, begins⟩

-- A publisher of two helpers with one text, whose manifest comes at the second attempt.
def published : Solver where
  source :=
    let digest := "b4bb82896600afcce960982805c641bdf1caa68fdff9d6e16411f8d4076ebe1a".toList ++
      "c602840dc721d6a5215d6369a686763e066981e4ed1e7849ee7f9a05e24be738".toList
    let manifest := "\x7b\"lib.json\":\" ".toList ++ digest ++
      "\",\"yt.solver.core.js\":\"".toList ++ digest ++ "\"\x7d".toList
    { server := .scripted [
        ("/l".toList, [{ body := "\x7b\"data\":\x7b\"code\":\"L\"\x7d\x7d".toList }]),
        ("/m".toList, [{ status := 503 }, { body := manifest }])]
      libraryUrl := "http://h/l".toList
      coreUrl := "http://h/l".toList
      manifestUrl := "http://h/m".toList }
  runtime := .ready (.scripted "e".toList fun _ _ => .ok [])

-- What is published: the text of both helpers, its digest, and the digests as the manifest lists them.
def helperText : Text := "\x7b\"data\":\x7b\"code\":\"L\"\x7d\x7d".toList

def helperDigest : Text :=
  "b4bb82896600afcce960982805c641bdf1caa68fdff9d6e16411f8d4076ebe1a".toList ++
    "c602840dc721d6a5215d6369a686763e066981e4ed1e7849ee7f9a05e24be738".toList

def helperDocument : Text :=
  "\x7b\"lib.json\":\" ".toList ++ helperDigest ++ "\",\"yt.solver.core.js\":\"".toList ++
    helperDigest ++ "\"\x7d".toList

def helperManifest : Manifest :=
  [(HelperFile.library.name, ' ' :: helperDigest), (HelperFile.core.name, helperDigest)]

theorem hexDigest_helperText : Sha3.hexDigest helperText = helperDigest := by
  rw [Sha3.hexDigest, Sha3.digest_eq]
  decide +kernel

-- Both documents are written as compact JSON, so they need not be read sign by sign.
theorem libraryCode?_helperText : HelperSource.libraryCode? helperText = some "L".toList := by
  let value : Json.Value := .object [("data".toList, .object [("code".toList, .string "L".toList)])]
  have plain : value.IsPlain := ⟨⟨trivial, trivial⟩, trivial⟩
  have written : helperText = value.compact := by decide
  rw [written, HelperSource.libraryCode?, Json.read_compact plain]
  rfl

set_option maxRecDepth 2000 in
theorem read_helperDocument : Manifest.read helperDocument = some helperManifest := by
  let value : Json.Value := .object (helperManifest.map fun entry => (entry.1, .string entry.2))
  have plain : value.IsPlain := ⟨trivial, trivial, trivial⟩
  have written : helperDocument = value.compact := by decide
  rw [written, Manifest.read, Json.read_compact plain]
  rfl

theorem loadAll_published : ∃ after,
    published.source.loadAll {} = (.ok ⟨"L".toList, helperText⟩, after) ∧ after.codes = [] ∧
      after.cached? HelperFile.library.cacheName = some helperText := by
  let listed := (Http.fetch published.source.server published.source.manifestUrl {}).2
  let halfway := (Http.fetch published.source.server published.source.libraryUrl listed).2
  let last := (Http.fetch published.source.server published.source.coreUrl halfway).2
  have spaced : HelperSource.matchesDigest helperText (' ' :: helperDigest) = true := by
    rw [HelperSource.matchesDigest, hexDigest_helperText]
    decide
  have unspaced : HelperSource.matchesDigest helperText helperDigest = true := by
    rw [HelperSource.matchesDigest, hexDigest_helperText]
    decide
  have manifest : Http.fetch published.source.server published.source.manifestUrl {} =
    (.ok helperDocument, listed) := rfl
  have first : Http.fetch published.source.server published.source.libraryUrl listed =
    (.ok helperText, halfway) := rfl
  have second : Http.fetch published.source.server published.source.coreUrl halfway =
    (.ok helperText, last) := rfl
  -- What the requests were does not matter further.
  clear_value last halfway listed
  let half := World.store { trace := halfway } HelperFile.library.cacheName helperText
  have library : published.source.load helperManifest .library { trace := listed } =
      (.ok helperText, half) :=
    HelperSource.load_of_fetched rfl rfl first spaced
  have core := HelperSource.load_of_fetched (rfl : helperManifest.digest? .core = some helperDigest)
    (rfl : HelperSource.trusted? half .core helperDigest = none) second unspaced
  refine ⟨_, HelperSource.loadAll_of_loads manifest read_helperDocument library core
    libraryCode?_helperText, rfl, ?_⟩
  have stored : half.cached? HelperFile.library.cacheName = some helperText := World.cached?_store ..
  exact (World.cached?_store_of_ne _ _ (by decide)).trans stored

theorem helpers_verified_published :
    ∃ now past, now :: past <:+ published.history [.solve [] [] []] {} ∧
      (∃ code, now.codes = [code] ∧ ∃ manifest library core program,
        published.source.Listed (now :: past) manifest ∧
          manifest.Vouches .library library ∧ manifest.Vouches .core core ∧
          HelperSource.libraryCode? library = some program ∧
          program ++ "\nObject.assign(globalThis, lib);\n".toList ++ core <+: code) ∧
      ∃ content, now.cached? HelperFile.library.cacheName = some content ∧
        published.source.Saw (now :: past) (published.source.url .library) content ∧
        ∃ manifest, published.source.Listed (now :: past) manifest ∧
          manifest.Vouches .library content := by
  obtain ⟨after, called, codes, stored⟩ := loadAll_published
  have engine : published.runtime = .ready (.scripted "e".toList fun _ _ => .ok []) := rfl
  -- From here on nothing depends on what is published.
  generalize published = solver at called engine ⊢
  obtain ⟨trace, made⟩ := perform_of_loadAll engine rfl called [] [] []
  have ends : solver.perform (.solve [] [] []) {} :: (solver.loading {} ++ [({} : World)]) <:+
    solver.history [.solve [] [] []] {} := List.suffix_rfl
  obtain ⟨⟨ran, same, each⟩, kept⟩ := helpers_verified solver [] {} [] [.solve [] [] []] _ _ ends
  have single : ran = [batch ⟨"L".toList, helperText⟩ [] [] []] := by
    rw [← List.nil_append ran, ← same, made]
    exact congrArg (· ++ _) codes
  have cached : (solver.perform (.solve [] [] []) {}).cached? HelperFile.library.cacheName =
      some helperText := by
    rw [made]
    exact stored
  subst single
  refine ⟨_, _, ends, ⟨_, same, each _ (List.mem_singleton_self _)⟩, ?_⟩
  refine (kept .library).resolve_left ?_
  rw [cached]
  exact Option.some_ne_none _

end Solver
end StreamLinks
