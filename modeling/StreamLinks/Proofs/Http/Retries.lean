import StreamLinks.Http.Fetch
/-!
The attempts of a download. Another one follows only a reply that may pass, and what comes of the last one
comes of the download.
-/
namespace StreamLinks.Http
variable {server : Server} {location : Text} {url : Url} {before : Trace} {reply : Reply}
  {replies : List Reply} {most : Nat}

theorem mapError_eq_ok {ε ε' α : Type} {f : ε → ε'} {outcome : Except ε α} {value : α} :
    outcome.mapError f = .ok value ↔ outcome = .ok value := by
  cases outcome with
  | ok found =>
    constructor
    · intro same
      cases same
      rfl
    · intro same
      cases same
      rfl
  | error failure => exact iff_of_false (fun same => by cases same) fun same => by cases same

-- The same request may get another reply: the server failed, or there was no connection to it.
def Reply.mayPass : Reply → Bool
  | .answer given => isServerError given.status
  | .unreachable _ => true

-- What comes of a reply for the one who asked.
def Reply.outcome (url : Url) : Reply → Except Failure Text
  | .answer given =>
    if isClientError given.status || isServerError given.status then
      .error (.http (Error.ofStatus url given.status))
    else given.text.mapError .http
  | .unreachable causes => .error (.http (Error.ofConnection url causes))

-- The requests that reached the server: those with an answer.
def Reply.received (url : Url) : Reply → List Request
  | .answer _ => [.get url]
  | .unreachable _ => []

-- The history behind these replies.
def heard (url : Url) (replies : List Reply) (before : Trace) : Trace :=
  { before with requests := before.requests ++ replies.flatMap (·.received url) }

-- The replies to at most so many attempts, in their order.
structure Attempts (server : Server) (url : Url) (before : Trace) (most : Nat)
    (replies : List Reply) : Prop where
  few : replies.length ≤ most
  replied : ∀ made reply, replies[made]? = some reply →
    reply = server (heard url (replies.take made) before).requests (.get url)
  again : ∀ made reply, replies[made]? = some reply →
    (made + 1 < replies.length ↔ reply.mayPass = true ∧ made + 1 < most)

theorem heard_nil (url : Url) (before : Trace) : heard url [] before = before := by
  simp [heard]

theorem heard_cons (url : Url) (reply : Reply) (replies : List Reply) (before : Trace) :
    heard url (reply :: replies) before = heard url replies (heard url [reply] before) := by
  simp [heard]

theorem fetchOnce_eq (addressed : addressOf location = .ok url) (server : Server) (before : Trace) :
    let reply := server before.requests (.get url)
    fetchOnce server location before = (reply.outcome url, heard url [reply] before) := by
  dsimp only
  cases replied : server before.requests (.get url) with
  | unreachable causes =>
    simp [fetchOnce, addressed, replied, Reply.outcome, heard, Reply.received]
  | answer answer =>
    simp only [fetchOnce, addressed, replied, Reply.outcome]
    split
    · rfl
    · cases answer.text <;> rfl

theorem retryable_of_text {answer : Answer} {error : Error} (failed : answer.text = .error error) :
    error.retryable = false := by
  unfold Answer.text at failed
  split at failed
  · cases failed
    rfl
  · split at failed <;> cases failed

-- A failure says whether another attempt may succeed just as the reply does.
theorem outcome_cases (url : Url) (reply : Reply) :
    (∃ text, reply.outcome url = .ok text ∧ reply.mayPass = false) ∨
      ∃ failure, reply.outcome url = .error failure ∧ failure.isRetryable = reply.mayPass := by
  cases reply with
  | unreachable causes => exact .inr ⟨_, rfl, rfl⟩
  | answer answer =>
    by_cases refused : (isClientError answer.status || isServerError answer.status) = true
    · exact .inr ⟨_, if_pos refused, rfl⟩
    · have steady : isServerError answer.status = false :=
        (Bool.or_eq_false_iff.mp (Bool.not_eq_true _ ▸ refused)).2
      have accepted : (Reply.answer answer).outcome url = answer.text.mapError .http := if_neg refused
      cases body : answer.text with
      | ok text => exact .inl ⟨text, by rw [accepted, body]; rfl, steady⟩
      | error error =>
        refine .inr ⟨.http error, by rw [accepted, body]; rfl, ?_⟩
        exact (retryable_of_text body).trans steady.symm

-- No more attempts are allowed, or none would help.
theorem Attempts.last (allowed : 0 < most) (done : most = 1 ∨ reply.mayPass = false)
    (replied : reply = server before.requests (.get url)) :
    Attempts server url before most [reply] := by
  refine ⟨allowed, ?_, ?_⟩
  · intro made other found
    obtain ⟨rfl, rfl⟩ : made = 0 ∧ reply = other := by simpa [List.getElem?_singleton] using found
    rwa [List.take_zero, heard_nil]
  · intro made other found
    obtain ⟨rfl, rfl⟩ : made = 0 ∧ reply = other := by simpa [List.getElem?_singleton] using found
    rcases done with rfl | steady
    · simp
    · simp [steady]

theorem Attempts.next (passing : reply.mayPass = true) (allowed : 0 < most)
    (replied : reply = server before.requests (.get url))
    (rest : Attempts server url (heard url [reply] before) most replies) (made : replies ≠ []) :
    Attempts server url before (most + 1) (reply :: replies) := by
  refine ⟨Nat.succ_le_succ rest.few, ?_, ?_⟩
  · intro made other found
    cases made with
    | zero =>
      obtain rfl : reply = other := by simpa using found
      rwa [List.take_zero, heard_nil]
    | succ made =>
      rw [List.take_succ_cons, heard_cons]
      exact rest.replied made other found
  · intro made other found
    cases made with
    | zero =>
      obtain rfl : reply = other := by simpa using found
      simp [passing, allowed, List.length_pos_iff, made]
    | succ made =>
      rw [List.length_cons, Nat.add_lt_add_iff_right, Nat.add_lt_add_iff_right]
      exact rest.again made other found

-- The induction is on the attempts that are left after the first.
theorem fetchWithin_attempts (addressed : addressOf location = .ok url) (server : Server) (again : Nat)
    (before : Trace) :
    ∃ earlier last, Attempts server url before (again + 1) (earlier ++ [last]) ∧
      fetchWithin server location again before =
        (last.outcome url, heard url (earlier ++ [last]) before) := by
  induction again generalizing before with
  | zero =>
    refine ⟨[], server before.requests (.get url), .last Nat.one_pos (.inl rfl) rfl, ?_⟩
    exact fetchOnce_eq addressed server before
  | succ again ih =>
    have first := fetchOnce_eq addressed server before
    dsimp only at first
    generalize replied : server before.requests (.get url) = reply at first
    have single (steady : reply.mayPass = false) :
        Attempts server url before (again + 2) ([] ++ [reply]) :=
      .last (Nat.succ_pos _) (.inr steady) replied.symm
    obtain ⟨text, succeeds, steady⟩ | ⟨failure, fails, same⟩ := outcome_cases url reply
    · refine ⟨[], reply, single steady, ?_⟩
      rw [succeeds] at first ⊢
      rw [fetchWithin, first]
      rfl
    · rw [fails] at first
      cases passing : reply.mayPass with
      | false =>
        refine ⟨[], reply, single passing, ?_⟩
        simp only [fetchWithin, first, same, passing, fails, Bool.false_eq_true, if_false]
        rfl
      | true =>
        obtain ⟨earlier, last, rest, ends⟩ := ih (heard url [reply] before)
        refine ⟨reply :: earlier, last, ?_, ?_⟩
        · exact .next passing (Nat.succ_pos _) replied.symm rest (by simp)
        · simp only [fetchWithin, first, same, passing, if_true]
          rw [ends, List.cons_append, heard_cons url reply (earlier ++ [last])]

-- A text that gives no address is given up without a request. Otherwise the replies go on as long as they
-- may pass, up to three of them.
theorem fetch_retries (server : Server) (location : Text) (before : Trace) :
    match addressOf location with
    | .error error => fetch server location before = (.error (.http error), before)
    | .ok url =>
      ∃ earlier last, Attempts server url before 3 (earlier ++ [last]) ∧
        fetch server location before =
          (last.outcome url, heard url (earlier ++ [last]) before) := by
  cases addressed : addressOf location with
  | error error => simp [fetch, fetchWithin, fetchOnce, addressed, Failure.isRetryable]
  | ok url => exact fetchWithin_attempts addressed server 2 before

-- A failure of the server does not hide the text behind it, and a refusal ends the attempts.
example :
    let server := Server.scripted [
      ("/late".toList, [{ status := 503 }, { body := ['t'] }]),
      ("/gone".toList, [{ status := 500 }, { status := 404 }, { body := ['t'] }])]
    let late := fetch server "http://h/late".toList {}
    let gone := fetch server "http://h/gone".toList {}
    late.1.toOption = some ['t'] ∧ late.2.requests.length = 2 ∧
      gone.1.toOption = none ∧ gone.2.requests.length = 2 := by
  decide

end StreamLinks.Http
