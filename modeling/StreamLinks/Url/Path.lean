import StreamLinks.Text.FormEncoding
/-!
The path of an address. Dot segments are resolved while the path is built from left to right.
-/
namespace StreamLinks.Url

/-- The characters that a path holds only in percent-encoded form. -/
def isPathEscaped (c : Char) : Bool :=
  c.toNat ≤ 0x20 || 0x7F ≤ c.toNat || "\"#<>?\x60\x7b\x7d".toList.contains c

/-- The segment is the current place. -/
def isSingleDot (segment : Text) : Bool := ["."  , "%2e"].any (·.toList == Text.lower segment)

/-- The segment is the place above. -/
def isDoubleDot (segment : Text) : Bool :=
  ["..", "%2e%2e", "%2e.", ".%2e"].any (·.toList == Text.lower segment)

/-- A letter and a colon or bar, perhaps with more segments or parts behind it. -/
def startsWithDrive (text : Text) : Bool :=
  match text with
  | letter :: mark :: rest =>
    letter.isAlpha && (mark == ':' || mark == '|') &&
      (rest.isEmpty || rest.head?.any fun c => "/\\?#".toList.contains c)
  | _ => false

/-- A letter and a colon or bar. -/
def isDrive (segment : Text) : Bool := segment.length == 2 && startsWithDrive segment

/-- A path that is being built, its last character first. -/
abbrev Trail := Text

/-- The last segment of a path. -/
def lastSegment (trail : Trail) : Text := (trail.takeWhile (· != '/')).reverse

/-- A path that ends with a slash, without this slash, unless it is the root or a drive's. -/
def dropFinalSlash (trail : Trail) : Trail :=
  match trail with
  | '/' :: front =>
    if front.contains '/' && !startsWithDrive (lastSegment front ++ ['/']) then front else trail
  | _ => trail

/-- The path with a slash at its end. -/
def closeWithSlash (trail : Trail) : Trail :=
  match trail with
  | '/' :: _ => trail
  | _ => '/' :: trail

/-- Goes up one segment, to the slash before it. A drive of a file path stays. -/
def goUp (file : Bool) (trail : Trail) : Trail :=
  let front := dropFinalSlash trail
  let segment := lastSegment front
  if file && isDrive segment && segment.getLast? == some ':' then front
  else front.dropWhile (· != '/')

/-- Adds the segments to a path, with slashes between them. -/
def addSegments (file : Bool) (trail : Trail) : List Text → Trail
  | [] => trail
  | segment :: rest =>
    let encoded := Text.percentEncode isPathEscaped segment
    let close (trail : Trail) : Trail := if rest.isEmpty then trail else closeWithSlash trail
    let next :=
      if isDoubleDot encoded then close (goUp file trail)
      else if isSingleDot encoded then closeWithSlash trail
      else
        let kept :=
          if file && trail == ['/'] && isDrive encoded then encoded.take 1 ++ [':'] else encoded
        let added := kept.reverse ++ trail
        if rest.isEmpty then added else '/' :: added
    addSegments file next rest

/-- The path of the segments, from the root. -/
def pathOf (file : Bool) (segments : List Text) : Text := (addSegments file ['/'] segments).reverse

/-- The segments between the slashes. Where a backslash counts as a slash, it separates too. -/
def segmentsOf (backslash : Bool) (text : Text) : List Text :=
  Text.splitAtChar '/' (if backslash then text.map fun c => if c = '\\' then '/' else c else text)

end StreamLinks.Url
