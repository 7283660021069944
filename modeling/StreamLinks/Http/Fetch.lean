import StreamLinks.World
/-!
Downloads. A failure that may pass is tried again, three attempts in all.
-/
namespace StreamLinks.Http

/-- One attempt to download a text. -/
def fetchOnce (server : Server) (location : Text) : Traced Text := fun trace =>
  match addressOf location with
  | .error error => (.error (.http error), trace)
  | .ok url =>
    let request := Request.get url
    match server trace.requests request with
    | .unreachable causes => (.error (.http (Error.ofConnection url causes)), trace)
    | .answer answer =>
      let trace := trace.asked request
      if isClientError answer.status || isServerError answer.status then
        (.error (.http (Error.ofStatus url answer.status)), trace)
      else
        match answer.text with
        | .ok text => (.ok text, trace)
        | .error error => (.error (.http error), trace)

/-- Downloads a text, with at most `again` further attempts after the first. -/
def fetchWithin (server : Server) (location : Text) : (again : Nat) → Traced Text
  | 0, trace => fetchOnce server location trace
  | again + 1, trace =>
    match fetchOnce server location trace with
    | (.error failure, trace) =>
      if failure.isRetryable then fetchWithin server location again trace
      else (.error failure, trace)
    | done => done

/-- Downloads a text in at most three attempts. -/
def fetch (server : Server) (location : Text) : Traced Text := fetchWithin server location 2

end StreamLinks.Http
