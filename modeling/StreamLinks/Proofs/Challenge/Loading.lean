import StreamLinks.Challenge.Helpers
import StreamLinks.Proofs.Http.Download
/-!
Where the helpers come from.

A helper is used only if a downloaded manifest vouches for it, and a copy is written to the cache only
if it was downloaded as well. The moments of a run are lists of worlds, the newest first.
-/
namespace StreamLinks

-- The manifest has the digest of the content, up to the case of its digits and the blanks around it.
def Manifest.Vouches (manifest : Manifest) (file : HelperFile) (content : Text) : Prop :=
  ∃ digest, manifest.digest? file = some digest ∧
    Text.lower (Sha3.hexDigest content) = Text.lower (Text.trim digest)

-- What the source of every batch begins with.
def Helpers.opening (helpers : Helpers) : Text :=
  helpers.library ++ "\nObject.assign(globalThis, lib);\n".toList ++ helpers.core

theorem HelperFile.cacheName_ne {file other : HelperFile} (different : other ≠ file) :
    other.cacheName ≠ file.cacheName := by
  cases file <;> cases other <;> first | exact absurd rfl different | decide

namespace HelperSource
variable {source : HelperSource} {seen past : List World} {start now : World}

theorem matchesDigest_iff (content digest : Text) :
    matchesDigest content digest = true ↔
      Text.lower (Sha3.hexDigest content) = Text.lower (Text.trim digest) := by
  simp only [matchesDigest, Text.sameIgnoringCase, Text.lower, beq_iff_eq]

theorem matches_of_trusted {world : World} {file : HelperFile} {digest content : Text}
    (trusted : trusted? world file digest = some content) : matchesDigest content digest = true :=
  (Option.filter_eq_some_iff.mp trusted).2

-- A load either leaves everything but the trace or writes a download that was vouched for. What it
-- gives is vouched for in both cases.
theorem load_cases (source : HelperSource) (manifest : Manifest) (file : HelperFile)
    (world : World) :
    (∃ trace, (source.load manifest file world).2 = { world with trace } ∧
        ∀ content, (source.load manifest file world).1 = .ok content →
          manifest.Vouches file content) ∨
      ∃ content trace,
        source.load manifest file world =
            (.ok content, { world with trace }.store file.cacheName content) ∧
          manifest.Vouches file content ∧
          Http.Downloaded source.server (source.url file) content world.trace trace := by
  cases listed : manifest.digest? file with
  | none =>
    left
    refine ⟨world.trace, ?_, ?_⟩ <;> simp [load, listed]
  | some digest =>
    cases trusted : trusted? world file digest with
    | some content =>
      left
      refine ⟨world.trace, by simp [load, listed, trusted], ?_⟩
      intro given loaded
      simp only [load, listed, trusted, Except.ok.injEq] at loaded
      subst loaded
      exact ⟨digest, listed, (matchesDigest_iff ..).mp (matches_of_trusted trusted)⟩
    | none =>
      cases fetched : Http.fetch source.server (source.url file) world.trace with
      | mk outcome trace =>
        cases outcome with
        | error failure =>
          left
          refine ⟨trace, ?_, ?_⟩ <;> simp [load, listed, trusted, World.outside, fetched]
        | ok content =>
          by_cases right : matchesDigest content digest = true
          · refine .inr ⟨content, trace, ?_, ?_, Http.downloaded_of_fetch fetched⟩
            · simp [load, listed, trusted, World.outside, fetched, right]
            · exact ⟨digest, listed, (matchesDigest_iff ..).mp right⟩
          · left
            refine ⟨trace, ?_, ?_⟩ <;>
              simp [load, listed, trusted, World.outside, fetched, right]

theorem vouches_of_load {manifest : Manifest} {file : HelperFile} {content : Text} {world after : World}
    (loaded : source.load manifest file world = (.ok content, after)) :
    manifest.Vouches file content := by
  rcases source.load_cases manifest file world with ⟨trace, -, vouched⟩ | ⟨text, trace, same, vouched, -⟩
  · exact vouched content (by rw [loaded])
  · rw [loaded, Prod.mk.injEq, Except.ok.injEq] at same
    rwa [same.1]

-- Loading touches the trace and the cache alone.
theorem load_snd (source : HelperSource) (manifest : Manifest) (file : HelperFile) (world : World) :
    ∃ trace cache, (source.load manifest file world).2 = { world with trace, cache } := by
  rcases source.load_cases manifest file world with ⟨trace, after, -⟩ | ⟨content, trace, after, -⟩
  · exact ⟨trace, world.cache, after⟩
  · rw [after]
    exact ⟨_, _, rfl⟩

theorem loadAll_snd (source : HelperSource) (world : World) :
    ∃ trace cache, (source.loadAll world).2 = { world with trace, cache } := by
  cases fetched : Http.fetch source.server source.manifestUrl world.trace with
  | mk outcome trace =>
    cases outcome with
    | error failure =>
      simp only [loadAll, World.outside, fetched]
      exact ⟨_, _, rfl⟩
    | ok document =>
      cases read : Manifest.read document with
      | none =>
        simp only [loadAll, World.outside, fetched, read]
        exact ⟨_, _, rfl⟩
      | some manifest =>
        cases library : source.load manifest .library { world with trace } with
        | mk outcome half =>
          obtain ⟨after, cache, first⟩ := source.load_snd manifest .library { world with trace }
          rw [library] at first
          cases outcome with
          | error failure =>
            simp only [loadAll, World.outside, fetched, read, library]
            exact ⟨after, cache, first⟩
          | ok text =>
            obtain ⟨last, cache, second⟩ := source.load_snd manifest .core half
            refine ⟨last, cache, ?_⟩
            simp only [loadAll, World.outside, fetched, read, library]
            repeat' split
            all_goals simp_all

theorem ready_codes (source : HelperSource) (world : World) :
    (source.ready world).2.codes = world.codes := by
  obtain ⟨trace, cache, loaded⟩ := source.loadAll_snd world
  simp only [ready]
  cases world.helpers with
  | some helpers => rfl
  | none =>
    rcases called : source.loadAll world with ⟨outcome, after⟩
    rw [called] at loaded
    subst loaded
    cases outcome <;> rfl

-- Between two moments that follow each other the text was downloaded from the location.
def Saw (source : HelperSource) (seen : List World) (location text : Text) : Prop :=
  ∃ before after, [after, before] <:+: seen ∧
    Http.Downloaded source.server location text before.trace after.trace

-- The manifest was downloaded.
def Listed (source : HelperSource) (seen : List World) (manifest : Manifest) : Prop :=
  ∃ document, source.Saw seen source.manifestUrl document ∧ Manifest.read document = some manifest

-- One manifest vouches for both helpers.
def Backs (source : HelperSource) (seen : List World) (helpers : Helpers) : Prop :=
  ∃ manifest library, source.Listed seen manifest ∧ manifest.Vouches .library library ∧
    manifest.Vouches .core helpers.core ∧ libraryCode? library = some helpers.library

theorem Saw.later {location text : Text} (saw : source.Saw seen location text) (now : World) :
    source.Saw (now :: seen) location text := by
  obtain ⟨before, after, near, downloaded⟩ := saw
  exact ⟨before, after, List.infix_cons near, downloaded⟩

theorem Listed.later {manifest : Manifest} (listed : source.Listed seen manifest) (now : World) :
    source.Listed (now :: seen) manifest := by
  obtain ⟨document, saw, read⟩ := listed
  exact ⟨document, saw.later now, read⟩

theorem Backs.later {helpers : Helpers} (backed : source.Backs seen helpers) (now : World) :
    source.Backs (now :: seen) helpers := by
  obtain ⟨manifest, library, listed, rest⟩ := backed
  exact ⟨manifest, library, listed.later now, rest⟩

theorem saw_here {now next : World} {location text : Text}
    (downloaded : Http.Downloaded source.server location text now.trace next.trace) :
    source.Saw (next :: now :: past) location text :=
  ⟨now, next, ⟨[], past, rfl⟩, downloaded⟩

-- What is true of the world at every moment of a run that began at `start`.
structure Sound (source : HelperSource) (start : World) (seen : List World) (now : World) :
    Prop where
  codes : ∃ ran, now.codes = start.codes ++ ran ∧ ∀ code ∈ ran, ∃ helpers,
    source.Backs seen helpers ∧ helpers.opening <+: code
  cache : ∀ file, now.cached? file.cacheName = start.cached? file.cacheName ∨
    ∃ content, now.cached? file.cacheName = some content ∧
      source.Saw seen (source.url file) content ∧
      ∃ manifest, source.Listed seen manifest ∧ manifest.Vouches file content
  helpers : ∀ helpers, now.helpers = some helpers → source.Backs seen helpers

namespace Sound

theorem initial (source : HelperSource) (fresh : start.helpers = none) (seen : List World) :
    source.Sound start seen start := by
  refine ⟨⟨[], by simp⟩, fun file => .inl rfl, ?_⟩
  intro helpers kept
  rw [fresh] at kept
  cases kept

theorem later (sound : source.Sound start seen now) (next : World) :
    source.Sound start (next :: seen) now := by
  obtain ⟨⟨ran, same, backed⟩, cache, helpers⟩ := sound
  refine ⟨⟨ran, same, ?_⟩, ?_, fun found kept => (helpers found kept).later next⟩
  · intro code given
    obtain ⟨found, backs, begins⟩ := backed code given
    exact ⟨found, backs.later next, begins⟩
  · intro file
    refine (cache file).imp_right ?_
    rintro ⟨content, stored, saw, manifest, listed, vouched⟩
    exact ⟨content, stored, saw.later next, manifest, listed.later next, vouched⟩

-- The trace alone decides nothing.
theorem asked (sound : source.Sound start seen now) (trace : Trace) :
    source.Sound start seen { now with trace } := ⟨sound.codes, sound.cache, sound.helpers⟩

theorem settled {helpers : Helpers} (sound : source.Sound start seen now)
    (backed : source.Backs seen helpers) :
    source.Sound start seen { now with helpers := some helpers } := by
  refine ⟨sound.codes, sound.cache, ?_⟩
  intro found same
  cases same
  exact backed

theorem ran {helpers : Helpers} {code : Text} (sound : source.Sound start seen now)
    (backed : source.Backs seen helpers) (begins : helpers.opening <+: code) (trace : Trace) : source.Sound start seen { now.ran code with trace } := by
  obtain ⟨⟨ran, same, each⟩, cache, kept⟩ := sound
  refine ⟨⟨ran ++ [code], by simp [World.ran, same], ?_⟩, cache, kept⟩
  intro other given
  rcases List.mem_append.mp given with before | last
  · exact each other before
  · cases List.mem_singleton.mp last
    exact ⟨helpers, backed, begins⟩

-- The step of the invariant: only one file is written, with a download that was vouched for.
theorem loaded {manifest : Manifest} (sound : source.Sound start (now :: past) now)
    (listed : source.Listed (now :: past) manifest) (file : HelperFile) :
    source.Sound start ((source.load manifest file now).2 :: now :: past)
      (source.load manifest file now).2 := by
  rcases source.load_cases manifest file now with
    ⟨trace, after, -⟩ | ⟨content, trace, after, vouched, downloaded⟩
  · rw [after]
    exact (sound.later _).asked trace
  · rw [after]
    refine ⟨(sound.later _).codes, ?_, (sound.later _).helpers⟩
    intro other
    by_cases same : other = file
    · subst same
      exact .inr ⟨content, World.cached?_store .., saw_here downloaded, manifest,
        listed.later _, vouched⟩
    · rw [World.cached?_store_of_ne _ _ (HelperFile.cacheName_ne same)]
      exact (sound.later _).cache other

end Sound

-- Every moment is sound by what was seen until then.
def Kept (source : HelperSource) (start : World) (seen : List World) : Prop :=
  ∀ now past, now :: past <:+ seen → source.Sound start (now :: past) now

theorem Kept.none : source.Kept start [] := by
  intro now past reached
  simp at reached

theorem Kept.sound (kept : source.Kept start (now :: past)) :
    source.Sound start (now :: past) now := kept now past List.suffix_rfl

theorem Kept.next (kept : source.Kept start seen) (sound : source.Sound start (now :: seen) now) :
    source.Kept start (now :: seen) := by
  intro later past reached
  rcases List.suffix_cons_iff.mp reached with same | before
  · cases same
    exact sound
  · exact kept later past before

-- The moments of a load: after the manifest and after each helper, as far as it gets. A copy is
-- written at the end of its helper's load, so the cache has no other states than these.
def stages (source : HelperSource) (world : World) : List World :=
  match World.outside (Http.fetch source.server source.manifestUrl) world with
  | (.error _, listed) => [listed]
  | (.ok document, listed) =>
    match Manifest.read document with
    | none => [listed]
    | some manifest =>
      match source.load manifest .library listed with
      | (.error _, half) => [half, listed]
      | (.ok _, half) => [(source.load manifest .core half).2, half, listed]

-- The last moment of a load is the world that it leaves.
theorem head?_stages (source : HelperSource) (world : World) :
    (source.stages world).head? = some (source.loadAll world).2 := by
  simp only [stages, loadAll]
  repeat' split
  all_goals simp_all

end HelperSource
end StreamLinks
