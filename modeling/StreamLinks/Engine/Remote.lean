import StreamLinks.Digest.Sha3
import StreamLinks.Engine.Basic
/-!
Engines behind a server: source is posted to a worker, which answers with what it printed.

Before the first use the worker is sent a probe. Its outcome counts for good.
-/
namespace StreamLinks

/-- A worker and the key that it asks for. -/
structure Worker where
  endpoint : Text
  key : Text
  /-- Source is sent compressed. -/
  compressed : Bool := true
  deriving Repr, DecidableEq

/-- Why a worker's answer is of no use. -/
inductive WorkerError where
  | silent (error : Http.Error)
  | refused (status : Nat)
  | badBody (cause : Text)
  deriving Repr, DecidableEq

namespace WorkerError

def message : WorkerError → Text
  | silent error => "Status 'no response' (".toList ++ error.message ++ [')']
  | refused status => "Status '".toList ++ Http.statusLine status ++ ['\'']
  | badBody cause => "Invalid gzip response: ".toList ++ cause

def failure (error : WorkerError) : Failure := .own .execution error.message

end WorkerError

namespace Worker

/-- What is sent in place of the key. -/
def token (key : Text) : Text := Sha3.hexDigest key

def describe (worker : Worker) : Text := '\'' :: worker.endpoint ++ " (remote)'".toList

/-- The bytes of the header that a compressed body begins with. -/
def headerLength : Nat := 10

/-- The text of a body, uncompressed if it claims to be compressed. -/
def bodyOf (answer : Http.Answer) : Except WorkerError Text :=
  let claimed := answer.encoding.any fun encoding =>
    Text.sameIgnoringCase (Text.trim encoding) "gzip".toList
  if claimed && !answer.compressed then
    .error (.badBody
      (if (Text.toBytes answer.body).length < headerLength then "unexpected end of file"
        else "invalid gzip header").toList)
  else .ok answer.body

/-- The last line of an answer that was accepted. -/
def output (answer : Http.Answer) : Except WorkerError Text :=
  if Http.isSuccess answer.status then (bodyOf answer).map Text.lastLine
  else .error (.refused answer.status)

/-- Posts source. -/
def post (worker : Worker) (server : Http.Server) (code : Text) (compressed : Bool) :
    Traced Text := fun trace =>
  match Http.addressOf worker.endpoint with
  | .error error => (.error (WorkerError.silent error).failure, trace)
  | .ok url =>
    let request := Http.Request.post url code compressed (token worker.key)
    match server trace.requests request with
    | .unreachable causes =>
      (.error (WorkerError.silent (Http.Error.ofConnection url causes)).failure, trace)
    | .answer answer => ((output answer).mapError (·.failure), trace.asked request)

/-- The source of the probe. -/
def probe : Text := "decodeURIComponent(\"%3Fx%3Dtest\")".toList

/-- What a worker that is alive prints for the probe. -/
def probeAnswer : Text := "?x=test".toList

/-- Why a worker is not alive, judged by the outcome of the probe. -/
def verdict : Except Failure Text → Option Text
  | .ok answer =>
    if answer = probeAnswer then none
    else some ("JS runtime error: unexpected probe answer '".toList ++ answer ++ ['\''])
  | .error failure => some ("JS runtime error: ".toList ++ failure.message)

/-- The verdict on a worker as an outcome. -/
def aliveness : Option Text → Except Failure Unit
  | none => .ok ()
  | some reason => .error (.own .unavailable reason)

/-- The worker is alive. The probe is sent once and uncompressed. -/
def ensureAlive (worker : Worker) (server : Http.Server) : Traced Unit := fun trace =>
  match trace.probe with
  | some verdict => (aliveness verdict, trace)
  | none =>
    match worker.post server probe false trace with
    | (outcome, trace) =>
      (aliveness (verdict outcome), { trace with probe := some (verdict outcome) })

/-- Runs source on the worker. -/
def execute (worker : Worker) (server : Http.Server) (code : Text) : Traced Text := fun trace =>
  match worker.ensureAlive server trace with
  | (.error failure, trace) => (.error failure, trace)
  | (.ok (), trace) => worker.post server code worker.compressed trace

def engine (worker : Worker) (server : Http.Server) : Engine :=
  { describe := worker.describe
    execute := fun _ code => worker.execute server code }

end Worker
end StreamLinks
