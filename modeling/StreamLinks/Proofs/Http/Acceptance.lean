import StreamLinks.Proofs.Http.Retries
/-!
The answers whose text a download takes.

An answer is refused for an error status only, and not every other status is one of success. So the body is also
taken from an answer that is informational, that redirects without saying where to, or whose status is of no class.
-/
namespace StreamLinks.Http
variable {server : Server} {location text : Text} {url : Url} {before : Trace} {reply : Reply}

-- The status tells neither success nor an error.
def isNeither (status : Nat) : Bool := status < 200 || (300 ≤ status && status < 400) || 600 ≤ status

theorem isError_eq_false_iff (status : Nat) : (isClientError status || isServerError status) = false ↔
    isSuccess status = true ∨ isNeither status = true := by
  simp only [isClientError, isServerError, isSuccess, isNeither, Bool.or_eq_false_iff, Bool.and_eq_false_iff,
    Bool.or_eq_true, Bool.and_eq_true, decide_eq_false_iff_not, decide_eq_true_eq]
  omega

theorem isSuccess_of_isNeither {status : Nat} (neither : isNeither status = true) : isSuccess status = false := by
  simp only [isNeither, isSuccess, Bool.or_eq_true, Bool.and_eq_true, Bool.and_eq_false_iff,
    decide_eq_false_iff_not, decide_eq_true_eq] at neither ⊢
  omega

namespace Reply

-- The text is the body of an answer whose status tells success.
def Succeeds (reply : Reply) (text : Text) : Prop :=
  ∃ given, reply = .answer given ∧ isSuccess given.status = true ∧ given.text = .ok text

-- The text is the body of an answer whose status tells neither success nor an error.
def SlipsThrough (reply : Reply) (text : Text) : Prop :=
  ∃ given, reply = .answer given ∧ isNeither given.status = true ∧ given.text = .ok text

theorem outcome_eq_ok_iff :
    reply.outcome url = .ok text ↔ reply.Succeeds text ∨ reply.SlipsThrough text := by
  cases reply with
  | unreachable causes => simp [outcome, Succeeds, SlipsThrough]
  | answer given =>
    have accepted : (Reply.answer given).outcome url = .ok text ↔
        (isClientError given.status || isServerError given.status) = false ∧ given.text = .ok text := by
      cases refused : isClientError given.status || isServerError given.status with
      | true => simp [outcome, refused]
      | false =>
        have taken : (Reply.answer given).outcome url = given.text.mapError .http := if_neg (by simp [refused])
        simp only [taken, mapError_eq_ok, true_and]
    simp only [accepted, isError_eq_false_iff, Succeeds, SlipsThrough, Reply.answer.injEq, exists_eq_left',
      or_and_right]

theorem not_slipsThrough_of_succeeds {other : Text} (succeeds : reply.Succeeds text) :
    ¬ reply.SlipsThrough other := by
  rintro ⟨_, rfl, neither, -⟩
  obtain ⟨_, same, success, -⟩ := succeeds
  cases same
  rw [isSuccess_of_isNeither neither] at success
  cases success

end Reply

-- A text that a download yields is the body of the last answer. The status of that answer is one of success exactly if
-- it is not one of those that tell neither.
theorem fetch_success_iff (server : Server) (location : Text) (before : Trace) :
    match addressOf location with
    | .error error => fetch server location before = (.error (.http error), before)
    | .ok url => ∃ earlier last, Attempts server url before 3 (earlier ++ [last]) ∧
        (fetch server location before).2 = heard url (earlier ++ [last]) before ∧
        (∀ text, (fetch server location before).1 = .ok text ↔ last.Succeeds text ∨ last.SlipsThrough text) ∧
        ((∀ text, (fetch server location before).1 = .ok text → last.Succeeds text) ↔
          ∀ text, ¬ last.SlipsThrough text) := by
  cases addressed : addressOf location with
  | error error => simp [fetch, fetchWithin, fetchOnce, addressed]
  | ok url =>
    obtain ⟨earlier, last, attempts, ends⟩ := fetchWithin_attempts addressed server 2 before
    have outcome : fetch server location before = (last.outcome url, heard url (earlier ++ [last]) before) := ends
    refine ⟨earlier, last, attempts, by rw [outcome], ?_, ?_⟩
    · intro text
      rw [outcome]
      exact Reply.outcome_eq_ok_iff
    · simp only [outcome, Reply.outcome_eq_ok_iff]
      constructor
      · intro successful text slips
        exact Reply.not_slipsThrough_of_succeeds (successful text (.inr slips)) slips
      · intro none text given
        exact given.resolve_right (none text)

section withoutSuccess

-- A server that knows of one script that it is not modified, and of another one that there are several.
def undecided : Server := .scripted
  [("/same.js".toList, [{ status := 304 }]), ("/many.js".toList, [{ status := 300, body := "var a".toList }])]

theorem undecided_never_succeeds (earlier : List Request) (request : Request) (given : Answer)
    (replied : undecided earlier request = .answer given) : isSuccess given.status = false := by
  simp only [undecided, Server.scripted, List.lookup_cons, Reply.answer.injEq] at replied
  subst replied
  split
  · simp [isSuccess]
  · split <;> simp [isSuccess]

theorem taken_without_success :
    (∀ earlier request given, undecided earlier request = .answer given → isSuccess given.status = false) ∧
      (fetch undecided "http://h/same.js".toList {}).1.toOption = some [] ∧
        (fetch undecided "http://h/many.js".toList {}).1.toOption = some "var a".toList :=
  ⟨undecided_never_succeeds, by decide, by decide⟩

end withoutSuccess
end StreamLinks.Http
