import StreamLinks.Text.FormEncoding
/-!
Cipher queries: an address together with an obfuscated signature, written as a form.
-/
namespace StreamLinks

/-- The fields of a cipher query. -/
structure CipherQuery where
  url : Option Text
  signature : Option Text
  /-- The name of the parameter under which the signature belongs into the address. -/
  param : Text
  deriving Repr, DecidableEq

namespace CipherQuery

/-- The name of the parameter when the query gives none. -/
def defaultParam : Text := "signature".toList

/-- The last value of a field, unless it is empty. -/
def field? (name : Text) (pairs : List (Text × Text)) : Option Text :=
  match pairs.reverse.lookup name with
  | some [] => none
  | other => other

/-- Reads a cipher query. -/
def read (query : Text) : CipherQuery :=
  let pairs := Text.formPairs query
  { url := field? "url".toList pairs
    signature := field? "s".toList pairs
    param := (field? "sp".toList pairs).getD defaultParam }

end CipherQuery
end StreamLinks
