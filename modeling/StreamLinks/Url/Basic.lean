import StreamLinks.Url.Host
import StreamLinks.Url.Path
/-!
Addresses, read from text as browsers read them.

Blanks around an address and line breaks within it are dropped, letters of scheme and domain are
made small, a backslash counts as a slash where the scheme names a machine, and characters that may
not stand in a part are percent-encoded there.
-/
namespace StreamLinks

/-- An absolute address in its parts. -/
structure Url where
  scheme : Text
  /-- User name and password with the sign behind them, or nothing. -/
  user : Text := []
  host : Option Url.Host := none
  port : Option Nat := none
  path : Text
  query : Option Text := none
  fragment : Option Text := none
  deriving Repr, DecidableEq

namespace Url

/-- The usual port of a scheme that names a machine, `none` inside for one without ports. -/
def networkPort? (scheme : Text) : Option (Option Nat) :=
  ([("http", some 80), ("https", some 443), ("ws", some 80), ("wss", some 443), ("ftp", some 21),
    ("file", none)].find? fun (name, _) => name.toList == scheme).map (·.2)

/-- The scheme and what follows its colon. -/
def scheme? (text : Text) : Option (Text × Text) :=
  let isSchemeChar (c : Char) : Bool := c.isAlphanum || "+-.".toList.contains c
  match text.head?, text.dropWhile isSchemeChar with
  | some first, ':' :: rest =>
    if first.isAlpha then some (Text.lower (text.takeWhile isSchemeChar), rest) else none
  | _, _ => none

/-- The text up to a character of the class, and the rest from there on. -/
def upTo (stop : Char → Bool) (text : Text) : Text × Text :=
  (text.takeWhile fun c => !stop c, text.dropWhile fun c => !stop c)

def isUserEscaped (c : Char) : Bool :=
  isPathEscaped c || "/:;=@[\\]^|".toList.contains c

def isQueryEscaped (network : Bool) (c : Char) : Bool :=
  c.toNat ≤ 0x20 || 0x7F ≤ c.toNat || "\"#<>".toList.contains c || (network && c == '\'')

def isFragmentEscaped (c : Char) : Bool :=
  c.toNat ≤ 0x20 || 0x7F ≤ c.toNat || "\"<>\x60".toList.contains c

/-- The query and the fragment at the end of an address. -/
def queryAndFragment (network : Bool) (text : Text) : Option Text × Option Text :=
  let (front, back) := upTo (· == '#') text
  let query := match front with
    | '?' :: query => some (Text.percentEncode (isQueryEscaped network) query)
    | _ => none
  let fragment := match back with
    | '#' :: fragment => some (Text.percentEncode isFragmentEscaped fragment)
    | _ => none
  (query, fragment)

/-- Splits user name and password off at the last sign before the path. -/
def userinfo (network : Bool) (text : Text) : Except ParseError (Text × Text) :=
  let (authority, rest) := upTo (fun c => c == '/' || c == '?' || c == '#' || (network && c == '\\')) text
  let host := (authority.reverse.takeWhile (· != '@')).reverse
  if host.length = authority.length then .ok ([], text)
  else
    let written := authority.take (authority.length - host.length - 1)
    if written.isEmpty then
      if host.isEmpty && !rest.isEmpty then .error .emptyHost else .ok ([], host ++ rest)
    else
      let (name, behind) := upTo (· == ':') written
      let encode := Text.percentEncode isUserEscaped
      let secret := behind.drop 1
      let shown := encode name ++ if secret.isEmpty then [] else ':' :: encode secret
      .ok (if shown.isEmpty then [] else shown ++ ['@'], host ++ rest)

/-- The written host: up to a colon outside square brackets or to the end of the authority. -/
def hostText (network : Bool) (inBrackets : Bool) : Text → Text × Text
  | [] => ([], [])
  | c :: rest =>
    if (c == ':' && !inBrackets) || c == '/' || c == '?' || c == '#' || (network && c == '\\') then
      ([], c :: rest)
    else
      let inside := if c = '[' then true else if c = ']' then false else inBrackets
      let (host, behind) := hostText network inside rest
      (c :: host, behind)

/-- The port behind a colon; nothing when it is left out or is the usual one of the scheme. -/
def portOf (usual : Option Nat) (text : Text) : Except ParseError (Option Nat × Text) :=
  match text with
  | ':' :: behind =>
    let digits := behind.takeWhile Char.isDigit
    let rest := behind.drop digits.length
    let value := Text.digitsValue digits
    if 65535 < value then .error .badPort
    else if rest.head?.any fun c => !("/\\?#".toList.contains c) then .error .badPort
    else .ok (if digits.isEmpty || some value == usual then none else some value, rest)
  | _ => .ok (none, text)

/-- Path, query and fragment behind the authority. A scheme that names a machine has always a
path. -/
def withPath (url : Url) (network file : Bool) (text : Text) : Url :=
  let (written, tail) := upTo (fun c => c == '?' || c == '#') text
  let (query, fragment) := queryAndFragment network tail
  let path :=
    if network then
      let inside := match written with
        | '/' :: rest => rest
        | '\\' :: rest => rest
        | rest => rest
      pathOf file (segmentsOf true inside)
    else
      match written with
      | [] => []
      | '/' :: rest => pathOf false (segmentsOf false rest)
      | rest => pathOf false (segmentsOf false rest)
  let path := if file then '/' :: path.dropWhile (· == '/') else path
  { url with path, query, fragment }

/-- What follows the two slashes behind the scheme. -/
def withAuthority (scheme : Text) (network : Option (Option Nat)) (text : Text) :
    Except ParseError Url := do
  let isNetwork := network.isSome
  let (user, rest) ← userinfo isNetwork text
  let (written, rest) := hostText isNetwork false rest
  if isNetwork && written.isEmpty then .error .emptyHost
  else
    let host ← if isNetwork then Host.ofNetwork written else Host.ofOther written
    let missing := host == .plain []
    if missing && rest.head? == some ':' then .error .emptyHost
    else
      let (port, rest) ← portOf (network.bind id) rest
      if missing && !user.isEmpty then .error .emptyHost
      else
        let url : Url := { scheme, user, host := if missing then none else some host, port, path := [] }
        return url.withPath isNetwork false rest

/-- What follows the scheme of a file address. A local host counts as none, and so does any host
before a drive. -/
def fileUrl (text : Text) : Except ParseError Url := do
  let isSlash (c : Char) : Bool := c == '/' || c == '\\'
  match text with
  | a :: b :: rest =>
    if isSlash a && isSlash b then
      let (written, behind) := upTo (fun c => isSlash c || c == '?' || c == '#') rest
      if isDrive written then
        return { scheme := "file".toList, path := [] : Url }.withPath true true rest
      else
        let host ← if written.isEmpty then pure none else (some <$> Host.ofNetwork written)
        let url : Url := { scheme := "file".toList, path := [] }
        let url := url.withPath true true behind
        let firstSegment := (segmentsOf true (behind.drop 1)).head?.getD []
        return if host == some (.domain "localhost".toList) || isDrive firstSegment then url
          else { url with host }
    else return { scheme := "file".toList, path := [] : Url }.withPath true true text
  | _ => return { scheme := "file".toList, path := [] : Url }.withPath true true text

/-- A scheme that names no machine: with two slashes a host follows, else only a path. -/
def otherUrl (scheme text : Text) : Except ParseError Url :=
  match text with
  | '/' :: '/' :: rest => withAuthority scheme none rest
  | '/' :: _ => .ok ({ scheme, path := [] : Url }.withPath false false text)
  | _ =>
    let (written, tail) := upTo (fun c => c == '?' || c == '#') text
    let (query, fragment) := queryAndFragment false tail
    .ok { scheme, path := Text.percentEncode isControl written, query, fragment }

/-- Reads an absolute address. -/
def parse (input : Text) : Except ParseError Url :=
  let isEdge (c : Char) : Bool := c.toNat ≤ 0x20
  let trimmed := ((input.dropWhile isEdge).reverse.dropWhile isEdge).reverse
  let text := trimmed.filter fun c => c != '\t' && c != '\n' && c != '\r'
  match scheme? text with
  | none => .error .noScheme
  | some (scheme, rest) =>
    match networkPort? scheme with
    | none => otherUrl scheme rest
    | some usual =>
      if scheme = "file".toList then fileUrl rest
      else withAuthority scheme (some usual) (rest.dropWhile fun c => c == '/' || c == '\\')

/-- The normal form of an address. -/
def toText (url : Url) : Text :=
  let authority := match url.host with
    | some host =>
      "//".toList ++ url.user ++ host.toText ++
        (url.port.map fun port => ':' :: Text.ofNat port).getD []
    | none => if url.scheme = "file".toList then "//".toList else []
  url.scheme ++ [':'] ++ authority ++ url.path ++
    (url.query.map ('?' :: ·)).getD [] ++ (url.fragment.map ('#' :: ·)).getD []

end Url
end StreamLinks
