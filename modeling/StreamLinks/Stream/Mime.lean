import StreamLinks.Text.Basic
/-!
Media types as providers write them, with parameters behind a semicolon.
-/
namespace StreamLinks.Mime

/-- The type without its parameters. -/
def bare (mime : Text) : Text := Text.trim (mime.takeWhile (· != ';'))

def isVideo (mime : Text) : Bool := Text.startsWith "video/".toList (Text.trimStart mime)

def isAudio (mime : Text) : Bool := Text.startsWith "audio/".toList (Text.trimStart mime)

end StreamLinks.Mime
