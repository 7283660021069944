import StreamLinks.Http.Fetch
/-!
What a download leaves behind: its requests at the end of the history, and with a text the answer that
the server gave to the last of them.
-/
namespace StreamLinks.Http
variable {server : Server} {location text : Text} {before after : Trace}

-- From one moment to another the server was asked for a location, and its last answer was the text.
def Downloaded (server : Server) (location text : Text) (before after : Trace) : Prop :=
  ∃ url earlier answer, addressOf location = .ok url ∧ before.requests <+: earlier ∧
    after.requests = earlier ++ [Request.get url] ∧ server earlier (.get url) = .answer answer ∧
    (isClientError answer.status || isServerError answer.status) = false ∧ answer.text = .ok text

-- An attempt that was not the first counts as well.
theorem Downloaded.of_later {middle : Trace} (grown : before.requests <+: middle.requests)
    (downloaded : Downloaded server location text middle after) :
    Downloaded server location text before after := by
  obtain ⟨url, earlier, answer, address, kept, rest⟩ := downloaded
  exact ⟨url, earlier, answer, address, grown.trans kept, rest⟩

theorem requests_prefix_fetchOnce (server : Server) (location : Text) (trace : Trace) :
    trace.requests <+: (fetchOnce server location trace).2.requests := by
  cases address : addressOf location with
  | error error => simp only [fetchOnce, address, List.prefix_rfl]
  | ok url =>
    cases reply : server trace.requests (.get url) with
    | unreachable causes => simp only [fetchOnce, address, reply, List.prefix_rfl]
    | answer answer =>
      have asked : (fetchOnce server location trace).2 = trace.asked (.get url) := by
        simp only [fetchOnce, address, reply]
        repeat' split
        all_goals rfl
      rw [asked]
      exact List.prefix_append ..

theorem downloaded_of_fetchOnce (fetched : fetchOnce server location before = (.ok text, after)) :
    Downloaded server location text before after := by
  cases address : addressOf location with
  | error error => simp [fetchOnce, address] at fetched
  | ok url =>
    cases reply : server before.requests (.get url) with
    | unreachable causes => simp [fetchOnce, address, reply] at fetched
    | answer answer =>
      simp only [fetchOnce, address, reply] at fetched
      split at fetched
      · simp at fetched
      · rename_i accepted
        cases body : answer.text with
        | error error => simp [body] at fetched
        | ok content =>
          simp only [body, Prod.mk.injEq, Except.ok.injEq] at fetched
          obtain ⟨rfl, rfl⟩ := fetched
          exact ⟨url, before.requests, answer, address, List.prefix_rfl, rfl, reply,
            Bool.eq_false_iff.mpr accepted, body⟩

-- The induction is on the attempts that are left; a failed one only adds to the history.
theorem downloaded_of_fetchWithin (again : Nat)
    (fetched : fetchWithin server location again before = (.ok text, after)) :
    Downloaded server location text before after := by
  induction again generalizing before with
  | zero => exact downloaded_of_fetchOnce fetched
  | succ again ih =>
    have grown := requests_prefix_fetchOnce server location before
    cases first : fetchOnce server location before with
    | mk outcome middle =>
      rw [first] at grown
      cases outcome with
      | ok content =>
        simp only [fetchWithin, first] at fetched
        exact downloaded_of_fetchOnce (first.trans fetched)
      | error failure =>
        simp only [fetchWithin, first] at fetched
        split at fetched
        · exact (ih fetched).of_later grown
        · simp at fetched

theorem downloaded_of_fetch (fetched : fetch server location before = (.ok text, after)) :
    Downloaded server location text before after := downloaded_of_fetchWithin 2 fetched

end StreamLinks.Http
