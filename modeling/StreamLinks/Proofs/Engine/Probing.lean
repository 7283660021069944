import StreamLinks.Engine.Remote
import StreamLinks.Proofs.Engine.Runs
import StreamLinks.Proofs.Http.Retries
/-!
A worker is probed once, and code goes to no worker that has not proven itself.

The outcome of the probe is kept with the trace by whichever use comes first. From then on it decides
alone: a worker that is alive is posted the source of every run, one that is not is never asked again.
-/
namespace StreamLinks

namespace Http
variable {server : Server}

-- The requests among these that reach the server. It may be out of reach for some of them.
def delivered (server : Server) : (earlier made : List Request) → List Request
  | _, [] => []
  | earlier, request :: made =>
    match server earlier request with
    | .answer _ => request :: delivered server (earlier ++ [request]) made
    | .unreachable _ => delivered server earlier made

theorem delivered_cons (server : Server) (earlier : List Request) (request : Request)
    (made : List Request) :
    delivered server earlier (request :: made) = delivered server earlier [request] ++
      delivered server (earlier ++ delivered server earlier [request]) made := by
  cases reply : server earlier request <;> simp [delivered, reply]

theorem delivered_sublist (server : Server) (earlier made : List Request) :
    (delivered server earlier made).Sublist made := by
  induction made generalizing earlier with
  | nil => exact List.Sublist.slnil
  | cons request made ih =>
    cases reply : server earlier request with
    | answer answer =>
      rw [delivered, reply]
      exact (ih _).cons_cons request
    | unreachable causes =>
      rw [delivered, reply]
      exact (ih _).cons request

-- A server that answers every request is reached by all of them.
theorem delivered_of_answers (answers : ∀ earlier request, ∃ answer, server earlier request = .answer answer)
    (earlier made : List Request) : delivered server earlier made = made := by
  induction made generalizing earlier with
  | nil => rfl
  | cons request made ih =>
    obtain ⟨answer, reply⟩ := answers earlier request
    rw [delivered, reply]
    exact congrArg (request :: ·) (ih _)

end Http

namespace Worker
variable {worker : Worker} {server : Http.Server} {start : Trace} {url : Url} {reason : Text}

inductive Use where
  | ensureAlive
  | execute (code : Text)

-- The source that a use is to run.
def Use.code? : Use → Option Text
  | ensureAlive => none
  | execute code => some code

-- A use gives what the worker printed, if it runs anything.
def perform (worker : Worker) (server : Http.Server) : Use → Traced (Option Text)
  | .ensureAlive, trace =>
    match worker.ensureAlive server trace with
    | (outcome, trace) => (outcome.map fun _ => none, trace)
  | .execute code, trace =>
    match worker.execute server code trace with
    | (outcome, trace) => (outcome.map some, trace)

-- The outcomes of uses in their order, and the trace that they leave.
def performAll (worker : Worker) (server : Http.Server) :
    List Use → Trace → List (Except Failure (Option Text)) × Trace
  | [], trace => ([], trace)
  | use :: uses, trace =>
    let (outcome, trace) := worker.perform server use trace
    let (outcomes, trace) := worker.performAll server uses trace
    (outcome :: outcomes, trace)

def probing (worker : Worker) (url : Url) : Http.Request := .post url probe false (token worker.key)

def posting (worker : Worker) (url : Url) (code : Text) : Http.Request :=
  .post url code worker.compressed (token worker.key)

-- The probe gets an answer that is accepted and whose last line is the right one.
def Proven (worker : Worker) (server : Http.Server) (earlier : List Http.Request) : Prop :=
  ∃ url answer text, Http.addressOf worker.endpoint = .ok url ∧
    server earlier (worker.probing url) = .answer answer ∧ Http.isSuccess answer.status = true ∧
    bodyOf answer = .ok text ∧ Text.lastLine text = probeAnswer

theorem post_snd (server : Http.Server) (addressed : Http.addressOf worker.endpoint = .ok url)
    (code : Text) (compressed : Bool) (trace : Trace) :
    let request := Http.Request.post url code compressed (token worker.key)
    (worker.post server code compressed trace).2 =
      { trace with requests := trace.requests ++ Http.delivered server trace.requests [request] } := by
  intro request
  cases reply : server trace.requests request <;>
    simp [post, addressed, request, reply, Http.delivered, Trace.asked]

theorem post_snd_of_no_address {error : Http.Error}
    (refused : Http.addressOf worker.endpoint = .error error) (code : Text) (compressed : Bool)
    (trace : Trace) : (worker.post server code compressed trace).2 = trace := by
  simp only [post, refused]

-- A post fails in vain, not for want of a worker.
theorem post_ne_unavailable (worker : Worker) (server : Http.Server) (code : Text) (compressed : Bool)
    (trace : Trace) (reason : Text) :
    (worker.post server code compressed trace).1 ≠ .error (.own .unavailable reason) := by
  cases addressed : Http.addressOf worker.endpoint with
  | error error => simp [post, addressed, WorkerError.failure]
  | ok url =>
    cases reply : server trace.requests (.post url code compressed (token worker.key)) with
    | unreachable causes => simp [post, addressed, reply, WorkerError.failure]
    | answer answer =>
      simp only [post, addressed, reply]
      cases output answer <;> exact fun same => by cases same

theorem output_eq_ok {answer : Http.Answer} {line : Text} :
    output answer = .ok line ↔ Http.isSuccess answer.status = true ∧
      ∃ text, bodyOf answer = .ok text ∧ Text.lastLine text = line := by
  unfold output
  split
  · next accepted =>
    cases body : bodyOf answer <;> simp [Except.map, accepted]
  · next refused => simp [refused]

theorem printed_of_execute {code line : Text} {trace : Trace}
    (done : (worker.execute server code trace).1 = .ok line) :
    ∃ earlier url answer printed,
      server earlier (.post url code worker.compressed (token worker.key)) = .answer answer ∧
        Http.isSuccess answer.status = true ∧ bodyOf answer = .ok printed ∧ line = Text.lastLine printed := by
  unfold execute at done
  split at done
  · cases done
  · next after alive =>
    unfold post at done
    split at done
    · cases done
    · next url addressed =>
      dsimp only at done
      split at done
      · cases done
      · next answer reply =>
        obtain ⟨success, printed, body, same⟩ := output_eq_ok.mp (Http.mapError_eq_ok.mp done)
        exact ⟨after.requests, url, answer, printed, reply, success, body, same.symm⟩

theorem verdict_eq_none {outcome : Except Failure Text} :
    verdict outcome = none ↔ outcome = .ok probeAnswer := by
  cases outcome with
  | error failure => simp only [verdict, reduceCtorEq]
  | ok answer =>
    rw [verdict, Except.ok.injEq]
    split
    · next right => exact ⟨fun _ => right, fun _ => rfl⟩
    · next wrong => simp only [reduceCtorEq, wrong]

theorem verdict_post_eq_none (worker : Worker) (server : Http.Server) (trace : Trace) :
    verdict (worker.post server probe false trace).1 = none ↔ worker.Proven server trace.requests := by
  rw [verdict_eq_none]
  cases addressed : Http.addressOf worker.endpoint with
  | error error => simp [post, addressed, Proven]
  | ok url =>
    cases reply : server trace.requests (worker.probing url) with
    | unreachable causes =>
      rw [probing] at reply
      simp [post, addressed, reply, Proven, probing]
    | answer answer =>
      rw [probing] at reply
      simp only [post, addressed, reply, Http.mapError_eq_ok, output_eq_ok]
      simp [Proven, addressed, probing, reply]

-- The trace when the probe is done.
def probed (worker : Worker) (server : Http.Server) (trace : Trace) : Trace :=
  (worker.ensureAlive server trace).2

-- Whichever use comes first sends the probe; the rest of it is as if the probe had been sent before.
theorem perform_probed (worker : Worker) (server : Http.Server) (use : Use) (trace : Trace) :
    worker.perform server use trace = worker.perform server use (worker.probed server trace) := by
  have again : worker.ensureAlive server (worker.probed server trace) = worker.ensureAlive server trace := by
    cases done : trace.probe with
    | some verdict => simp [probed, ensureAlive, done]
    | none => simp [probed, ensureAlive, done]
  cases use with
  | ensureAlive => simp only [perform, again]
  | execute code => simp only [perform, execute, again]

theorem performAll_probed (worker : Worker) (server : Http.Server) {uses : List Use}
    (used : uses ≠ []) (trace : Trace) :
    worker.performAll server uses trace = worker.performAll server uses (worker.probed server trace) := by
  cases uses with
  | nil => exact absurd rfl used
  | cons use uses => simp only [performAll, perform_probed worker server use trace]

-- One use of a worker that is not alive, and a run of them.
theorem perform_dead (worker : Worker) (server : Http.Server)
    (known : start.probe = some (some reason)) (use : Use) :
    worker.perform server use start = (.error (.own .unavailable reason), start) := by
  cases use <;> simp [perform, execute, ensureAlive, known, aliveness, Except.map]

theorem performAll_dead (worker : Worker) (server : Http.Server)
    (known : start.probe = some (some reason)) (uses : List Use) :
    (∀ outcome ∈ (worker.performAll server uses start).1, outcome = .error (.own .unavailable reason)) ∧
      (worker.performAll server uses start).2 = start := by
  induction uses with
  | nil => simp [performAll]
  | cons use uses ih =>
    simp only [performAll, perform_dead worker server known use]
    exact ⟨List.forall_mem_cons.mpr ⟨rfl, ih.1⟩, ih.2⟩

-- One use of a worker that is alive: its source is posted, if it has one, and nothing else.
theorem perform_alive (server : Http.Server) (known : start.probe = some none)
    (addressed : Http.addressOf worker.endpoint = .ok url) (use : Use) :
    (∀ reason, (worker.perform server use start).1 ≠ .error (.own .unavailable reason)) ∧
      (worker.perform server use start).2 = { start with
        requests := start.requests ++
          Http.delivered server start.requests (use.code?.toList.map (worker.posting url)) } := by
  obtain ⟨requests, runs, outcome⟩ := start
  cases known
  cases use with
  | ensureAlive => simp [perform, ensureAlive, aliveness, Except.map, Use.code?, Http.delivered]
  | execute code =>
    refine ⟨?_, post_snd server addressed code worker.compressed _⟩
    intro reason failed
    have fails := post_ne_unavailable worker server code worker.compressed
      ⟨requests, runs, some none⟩ reason
    simp only [perform, execute, ensureAlive, aliveness] at failed
    cases outcome : (worker.post server code worker.compressed ⟨requests, runs, some none⟩).1 <;>
      simp_all [Except.map]

theorem performAll_alive (server : Http.Server) (known : start.probe = some none)
    (addressed : Http.addressOf worker.endpoint = .ok url) (uses : List Use) :
    (∀ outcome ∈ (worker.performAll server uses start).1, ∀ reason, outcome ≠ .error (.own .unavailable reason)) ∧
      (worker.performAll server uses start).2 = { start with
        requests := start.requests ++
          Http.delivered server start.requests ((uses.filterMap Use.code?).map (worker.posting url)) } := by
  induction uses generalizing start with
  | nil => simp [performAll, Http.delivered]
  | cons use uses ih =>
    obtain ⟨fails, sent⟩ := perform_alive server known addressed use
    obtain ⟨failsAfter, sentAfter⟩ := @ih (worker.perform server use start).2 (by rw [sent]; exact known)
    refine ⟨List.forall_mem_cons.mpr ⟨fails, failsAfter⟩, ?_⟩
    have after : (worker.performAll server (use :: uses) start).2 =
      (worker.performAll server uses (worker.perform server use start).2).2 := rfl
    rw [after, sentAfter, sent]
    cases code : use.code? with
    | none => simp only [Option.toList_none, List.map_nil, Http.delivered, List.append_nil,
        List.filterMap_cons, code]
    | some source =>
      rw [List.filterMap_cons_some code, List.map_cons, Http.delivered_cons, ← List.append_assoc]
      rfl

theorem probed_of_fresh (fresh : start.probe = none) :
    worker.probed server start = { (worker.post server probe false start).2 with
      probe := some (verdict (worker.post server probe false start).1) } := by
  simp only [probed, ensureAlive, fresh]

theorem requests_probed (fresh : start.probe = none)
    (addressed : Http.addressOf worker.endpoint = .ok url) :
    (worker.probed server start).requests =
      start.requests ++ Http.delivered server start.requests [worker.probing url] := by
  rw [probed_of_fresh fresh, post_snd server addressed]
  rfl

theorem performAll_of_proven {uses : List Use} (fresh : start.probe = none) (used : uses ≠ [])
    (proven : worker.Proven server start.requests) :
    (∀ outcome ∈ (worker.performAll server uses start).1, ∀ reason,
        outcome ≠ .error (.own .unavailable reason)) ∧
      ∃ url answer, Http.addressOf worker.endpoint = .ok url ∧
        server start.requests (worker.probing url) = .answer answer ∧
        (worker.performAll server uses start).2.requests = start.requests ++
          Http.delivered server start.requests
            (worker.probing url :: (uses.filterMap Use.code?).map (worker.posting url)) := by
  have known : (worker.probed server start).probe = some none := by
    rw [probed_of_fresh fresh, (verdict_post_eq_none worker server start).mpr proven]
  obtain ⟨url, answer, text, addressed, reply, -⟩ := proven
  obtain ⟨succeeds, after⟩ := performAll_alive server known addressed uses
  rw [performAll_probed worker server used]
  refine ⟨succeeds, url, answer, addressed, reply, ?_⟩
  simp only [after, requests_probed fresh addressed]
  rw [Http.delivered_cons server start.requests _ ((uses.filterMap Use.code?).map (worker.posting url)),
    List.append_assoc]

theorem performAll_of_unproven {uses : List Use} (fresh : start.probe = none) (used : uses ≠ [])
    (unproven : ¬ worker.Proven server start.requests) :
    (∃ reason, ∀ outcome ∈ (worker.performAll server uses start).1,
        outcome = .error (.own .unavailable reason)) ∧
      ((worker.performAll server uses start).2.requests = start.requests ∨
        ∃ url, Http.addressOf worker.endpoint = .ok url ∧
          (worker.performAll server uses start).2.requests = start.requests ++ [worker.probing url]) := by
  obtain ⟨reason, why⟩ := Option.ne_none_iff_exists'.mp
    (mt (verdict_post_eq_none worker server start).mp unproven)
  have known : (worker.probed server start).probe = some (some reason) := by
    rw [probed_of_fresh fresh, why]
  obtain ⟨fails, after⟩ := performAll_dead worker server known uses
  rw [performAll_probed worker server used, after]
  refine ⟨⟨reason, fails⟩, ?_⟩
  cases addressed : Http.addressOf worker.endpoint with
  | error error =>
    left
    rw [probed_of_fresh fresh, post_snd_of_no_address addressed]
  | ok url =>
    rw [requests_probed fresh addressed]
    cases reply : server start.requests (worker.probing url) with
    | answer answer => exact .inr ⟨url, rfl, by simp only [Http.delivered, reply]⟩
    | unreachable causes => exact .inl (by simp only [Http.delivered, reply, List.append_nil])

-- The first request is the probe. A worker that is alive gets one post for each run, in their order; one
-- that is not gets nothing more, and all uses fail in the same way.
theorem probed_once (worker : Worker) (server : Http.Server) (fresh : start.probe = none)
    (uses : List Use) :
    let (outcomes, after) := worker.performAll server uses start
    ∃ sent, after.requests = start.requests ++ sent ∧
      (∀ first ∈ sent.head?, ∃ url, Http.addressOf worker.endpoint = .ok url ∧
        first = worker.probing url) ∧
      (∀ request ∈ sent.tail, ∃ url code, Use.execute code ∈ uses ∧
        Http.addressOf worker.endpoint = .ok url ∧ request = worker.posting url code) ∧
      (worker.Proven server start.requests →
        (uses ≠ [] → ∃ url, Http.addressOf worker.endpoint = .ok url ∧
          let made := worker.probing url :: (uses.filterMap Use.code?).map (worker.posting url)
          sent = Http.delivered server start.requests made ∧
            ((∀ earlier request, ∃ answer, server earlier request = .answer answer) → sent = made)) ∧
        ∀ outcome ∈ outcomes, ∀ reason, outcome ≠ .error (.own .unavailable reason)) ∧
      (¬ worker.Proven server start.requests →
        sent.tail = [] ∧ ∃ reason, ∀ outcome ∈ outcomes, outcome = .error (.own .unavailable reason)) := by
  by_cases used : uses = []
  · subst used
    exact ⟨[], by simp⟩
  dsimp only
  by_cases proven : worker.Proven server start.requests
  · obtain ⟨succeeds, url, answer, addressed, reply, after⟩ := performAll_of_proven fresh used proven
    have opened : Http.delivered server start.requests
        (worker.probing url :: (uses.filterMap Use.code?).map (worker.posting url)) =
          worker.probing url :: Http.delivered server (start.requests ++ [worker.probing url])
            ((uses.filterMap Use.code?).map (worker.posting url)) := by
      rw [Http.delivered, reply]
    refine ⟨_, after, ?_, ?_, fun _ => ⟨fun _ => ⟨url, addressed, rfl, fun answers =>
      Http.delivered_of_answers answers _ _⟩, succeeds⟩, fun unproven => absurd proven unproven⟩
    · intro first found
      rw [opened] at found
      cases found
      exact ⟨url, addressed, rfl⟩
    · intro request present
      rw [opened] at present
      obtain ⟨code, ran, rfl⟩ := List.mem_map.mp ((Http.delivered_sublist ..).subset present)
      obtain ⟨use, given, source⟩ := List.mem_filterMap.mp ran
      cases use with
      | ensureAlive => cases source
      | execute own =>
        cases source
        exact ⟨url, code, given, addressed, rfl⟩
  · obtain ⟨fails, silent | ⟨url, addressed, after⟩⟩ := performAll_of_unproven fresh used proven
    · exact ⟨[], by simpa using silent, by simp, by simp, fun claimed => absurd claimed proven,
        fun _ => ⟨rfl, fails⟩⟩
    · refine ⟨[worker.probing url], after, ?_, by simp, fun claimed => absurd claimed proven,
        fun _ => ⟨rfl, fails⟩⟩
      intro first found
      cases found
      exact ⟨url, addressed, rfl⟩

-- A worker that prints what the probe asks for, and later something else.
def serving : Http.Server :=
  .scripted [("/w".toList, [{ body := "log\n ?x=test \n".toList }, { body := "7".toList }])]

def served : Worker := { endpoint := "http://h/w".toList, key := [] }

def servedAt : Url :=
  { scheme := "http".toList, host := some (.domain "h".toList), path := "/w".toList }

theorem probed_once_alive :
    ({} : Trace).probe = none ∧ served.Proven serving [] ∧
      (served.performAll serving [.execute "f()".toList, .ensureAlive, .execute "g()".toList] {}).2.requests =
        [served.probing servedAt, served.posting servedAt "f()".toList,
          served.posting servedAt "g()".toList] := by
  have addressed : Http.addressOf served.endpoint = .ok servedAt := eq_ok_of_toOption (by decide)
  have proven : served.Proven serving [] :=
    ⟨servedAt, { body := "log\n ?x=test \n".toList }, _, addressed, by decide, by decide, rfl,
      by decide⟩
  have fresh : ({} : Trace).probe = none := rfl
  have once := probed_once served serving fresh
    [.execute "f()".toList, .ensureAlive, .execute "g()".toList]
  refine ⟨fresh, proven, ?_⟩
  generalize served.performAll serving _ {} = finished at once ⊢
  obtain ⟨sent, after, -, -, alive, -⟩ := once
  obtain ⟨own, again, -, complete⟩ := (alive proven).1 (List.cons_ne_nil _ _)
  cases addressed.symm.trans again
  rw [after, complete fun _ _ => ⟨_, rfl⟩]
  rfl

end Worker
end StreamLinks
