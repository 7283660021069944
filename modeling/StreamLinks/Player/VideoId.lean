import StreamLinks.Failure
import StreamLinks.Url.Basic
/-!
The identifier of a video, given by itself or within the address of one of its pages.
-/
namespace StreamLinks

/-- Why a text names no video. -/
inductive VideoIdError where
  | address (error : Url.ParseError)
  /-- A short address without a path. -/
  | missing
  /-- A watch page without the parameter `v`. -/
  | missingParameter
  /-- A page for short or embedded videos without anything behind it. -/
  | missingInPath
  | unsupportedPath
  | unsupportedHost
  deriving Repr, DecidableEq

def VideoIdError.failure : VideoIdError → Failure
  | address error => .address error
  | missing => .own .validation "Missing video ID".toList
  | missingParameter => .own .validation "Missing v parameter".toList
  | missingInPath => .own .validation "Missing video ID in path".toList
  | unsupportedPath => .own .validation "Unsupported video URL format".toList
  | unsupportedHost => .own .validation "Not a supported video platform URL".toList

namespace VideoId

/-- Eleven ASCII letters, digits, hyphens and underscores are an identifier by themselves. -/
def isRaw (text : Text) : Bool :=
  text.length == 11 && text.all fun c => c.isAlphanum || c == '-' || c == '_'

/-- The host that shortens addresses. -/
def shortHost : Text := "youtu.be".toList

/-- The hosts that serve the pages of videos. -/
def pageHosts : List Text :=
  ["youtube.com".toList, "www.youtube.com".toList, "m.youtube.com".toList]

/-- The identifier in the address of a page. -/
def ofPage (url : Url) : Except VideoIdError Text :=
  match Text.after? "/watch".toList url.path with
  | some _ =>
    match (Text.formPairs (url.query.getD [])).find? fun (name, _) => name == ['v'] with
    | some (_, value) => .ok value
    | none => .error .missingParameter
  | none =>
    let behind := (Text.after? "/shorts/".toList url.path).or
      (Text.after? "/embed/".toList url.path)
    match behind with
    | some [] => .error .missingInPath
    | some id => .ok id
    | none => .error .unsupportedPath

/-- The identifier in an address. -/
def ofUrl (url : Url) : Except VideoIdError Text :=
  let host := url.host.map (·.toText)
  if host = some shortHost then
    match url.path.dropWhile (· == '/') with
    | [] => .error .missing
    | id => .ok id
  else if host.any pageHosts.contains then ofPage url
  else .error .unsupportedHost

/-- The identifier that a text gives. -/
def read (text : Text) : Except VideoIdError Text :=
  if isRaw text then .ok text
  else
    match Url.parse text with
    | .error error => .error (.address error)
    | .ok url => ofUrl url

end VideoId
end StreamLinks
