import StreamLinks.Text.FormEncoding
/-!
Addresses of streams, taken as text: the `n` parameter, the signature at the end, and the mark of
enlarged streams.
-/
namespace StreamLinks.Address

/-- What opens the `n` parameter inside an address. -/
def tokenMark : Text := "&n=".toList

/-- The value of the first `n` parameter that is closed by another parameter. -/
def token? (address : Text) : Option Text := do
  let (_, rest) ← Text.cut tokenMark address
  let (token, _) ← Text.cut ['&'] rest
  return token

/-- The `n` parameter with a value, as it stands between two others. -/
def tokenField (token : Text) : Text := tokenMark ++ token ++ ['&']

/-- The address with another value in every `n` parameter that has the old one. -/
def replaceToken (old new address : Text) : Text :=
  Text.replaceAll (tokenField old) (tokenField new) address

/-- The address with one more parameter. -/
def append (param value address : Text) : Text :=
  address ++ ['&'] ++ param ++ ['='] ++ Text.formEncode value

/-- An ASCII letter or digit or an underscore. -/
def isPlainWordChar (c : Char) : Bool := c.isAlphanum || c == '_'

/-- The mark of an enlarged stream. -/
def enlargedMark : Text := "sr%3D1".toList

/-- The mark of an enlarged stream stands here or later, between two characters outside words.
`before` is the character to the left. -/
def isEnlargedFrom (before : Option Char) : Text → Bool
  | [] => false
  | c :: rest =>
    (match before, Text.after? enlargedMark (c :: rest) with
      | some left, some (right :: _) => !isPlainWordChar left && !isPlainWordChar right
      | _, _ => false) || isEnlargedFrom (some c) rest

/-- The stream was enlarged by the server. -/
def isEnlarged (address : Text) : Bool := isEnlargedFrom none address

/-- The location is an address on the web and not a file. -/
def isRemote (location : Text) : Bool :=
  Text.startsWith "http://".toList location || Text.startsWith "https://".toList location

end StreamLinks.Address
