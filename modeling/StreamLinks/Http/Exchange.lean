import StreamLinks.Http.Status
import StreamLinks.Url.Basic
/-!
Requests, answers and servers.

A server is known by what it answers to a request after the requests before it. So it may change its
mind, count, or follow a script; nothing else about it matters.
-/
namespace StreamLinks.Http

/-- A request as a server sees it. -/
inductive Request where
  | get (url : Url)
  /-- Source sent to a worker, perhaps compressed, with the key that the worker knows. -/
  | post (url : Url) (source : Text) (compressed : Bool) (key : Text)
  deriving Repr, DecidableEq

def Request.url : Request → Url
  | get url => url
  | post url _ _ _ => url

/-- The path and query of a request. -/
def Request.target (request : Request) : Text :=
  request.url.path ++ (request.url.query.map ('?' :: ·)).getD []

/-- An answer. The text of the body is what stands behind its compression, if it has one. -/
structure Answer where
  status : Nat := 200
  body : Text := []
  /-- The encoding that the answer claims for its body. -/
  encoding : Option Text := none
  compressed : Bool := false
  deriving Repr, DecidableEq

/-- What comes of a request. -/
inductive Reply where
  | answer (answer : Answer)
  /-- No connection; the causes from the outermost to the innermost. -/
  | unreachable (causes : List Text)
  deriving Repr, DecidableEq

/-- The reply to a request after earlier requests, oldest first. -/
abbrev Server := (earlier : List Request) → Request → Reply

/-- A server that follows a script: the n-th request for a target gets the n-th of its answers, and
the last one repeats. Other targets are not found. -/
def Server.scripted (script : List (Text × List Answer)) : Server := fun earlier request =>
  let answers := (script.lookup request.target).getD []
  let count := (earlier.filter fun past => past.target == request.target).length
  .answer ((answers[min count (answers.length - 1)]?).getD { status := 404 })

/-- Why a request yields no text. -/
structure Error where
  status : Option Nat := none
  /-- Another attempt may succeed. -/
  retryable : Bool := false
  /-- The failure and its causes, from the outermost to the innermost. -/
  causes : List Text
  deriving Repr, DecidableEq

/-- An error with each of its causes told along with those below it. -/
def Error.chain (error : Error) : List Text :=
  (List.range error.causes.length).map fun place => Text.join ": ".toList (error.causes.drop place)

def Error.message (error : Error) : Text := Text.join ": ".toList error.causes

/-- No request can be made to this address. -/
def Error.ofAddress (error : Url.ParseError) : Error :=
  { causes := ["builder error".toList, error.message.toList] }

/-- No request line can carry this address. -/
def Error.ofUnsendable (url : Url) : Error :=
  { causes := ["builder error for url (".toList ++ url.toText ++ [')'],
      "Parsed Url is not a valid Uri".toList] }

/-- The connection failed. -/
def Error.ofConnection (url : Url) (causes : List Text) : Error :=
  { retryable := true
    causes := ("error sending request for url (".toList ++ url.toText ++ [')']) :: causes }

/-- The answer has an error status. -/
def Error.ofStatus (url : Url) (status : Nat) : Error :=
  let side := if Http.isServerError status then "server" else "client"
  { status := some status
    retryable := Http.isServerError status
    causes := ["HTTP status ".toList ++ side.toList ++ " error (".toList ++ statusLine status ++
      ") for url (".toList ++ url.toText ++ [')']] }

/-- The body is not what its encoding says. -/
def Error.ofBody : Error :=
  { causes := ["error decoding response body".toList, "invalid gzip header".toList] }

/-- At most this many characters of an address are sent. -/
def longestAddress : Nat := 65534

/-- Characters that a domain may hold but a request line may not. -/
def isUnsendable (c : Char) : Bool := "\"\x60\x7b\x7d".toList.contains c

/-- An address without user name and password, which travel apart from it, unless the name is no text
in UTF-8. -/
def withoutUser (url : Url) : Url :=
  let name := Text.percentDecode (url.user.takeWhile fun c => c != ':' && c != '@')
  if Text.toBytes (Text.ofBytes name) = name then { url with user := [] } else url

/-- The address as it is requested. -/
def sendable (url : Url) : Except Error Url :=
  let url := withoutUser url
  if longestAddress < url.toText.length || (url.host.map (·.toText)).any (·.any isUnsendable) then
    .error (Error.ofUnsendable url)
  else .ok url

/-- The address that a text gives, as it is requested. -/
def addressOf (location : Text) : Except Error Url :=
  match Url.parse location with
  | .error error => .error (Error.ofAddress error)
  | .ok url => sendable url

/-- The text of a body. A byte order mark at its start is not part of it. -/
def Answer.text (answer : Answer) : Except Error Text :=
  if answer.encoding = some "gzip".toList ∧ !answer.compressed ∧ !answer.body.isEmpty then
    .error Error.ofBody
  else
    match answer.body with
    | '\uFEFF' :: rest => .ok rest
    | body => .ok body

end StreamLinks.Http
