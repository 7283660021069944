import StreamLinks.Url.Error
import StreamLinks.Url.Domain.Label
import StreamLinks.Text.FormEncoding
/-!
Domain names. Their letters are folded to small ones and to plain forms, characters that are not shown
are dropped, and labels with characters beyond ASCII are written in ASCII.
-/
namespace StreamLinks.Url

/-- ASCII characters that no domain may hold. -/
def isRefusedAscii (c : Char) : Bool :=
  c.toNat ≤ 0x20 || c == '\x7f' || "%#/:<>?@[\\]^|".toList.contains c

/-- The mapped and composed form of a domain, with only allowed characters. -/
def foldedDomain? (text : Text) : Option Text := do
  let mapped ← Domain.map? text
  let folded := if Domain.isAscii mapped then mapped else Domain.compose mapped
  if folded.any isRefusedAscii then none else some folded

/-- The labels of a domain, if all of them are allowed and fit together. -/
def domainLabels? (text : Text) : Option (List Domain.Label) := do
  let folded ← foldedDomain? text
  let labels ← (Text.splitAtChar '.' folded).mapM Domain.Label.ofMapped?
  if Domain.directionsFit labels then some labels else none

/-- The normal form in ASCII of a domain that is written with percent signs. -/
def domain (written : Text) : Except ParseError Text :=
  match domainLabels? (Text.ofBytes (Text.percentDecode written)) with
  | none => .error .badDomain
  | some labels =>
    let name := Text.join ['.'] (labels.map (·.written))
    if name.isEmpty then .error .emptyHost else .ok name

end StreamLinks.Url
