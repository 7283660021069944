import StreamLinks.Text.Direction
import StreamLinks.Text.Joining
import StreamLinks.Url.Domain.Composition
import StreamLinks.Url.Domain.Mapping
import StreamLinks.Url.Domain.Punycode
/-!
The labels of a domain, between its dots, and what may stand in one. A label with characters beyond
ASCII is written in ASCII behind `xn--`.
-/
namespace StreamLinks.Url.Domain

/-- A label as it is written in ASCII and as it is shown. -/
structure Label where
  written : Text
  shown : Text
  deriving Repr, DecidableEq

def isAscii (text : Text) : Bool := text.all fun c => c.toNat < 0x80

/-- The first letter of a text that takes part in joining is of the kind. -/
def meets (kind : Text.Joining) (text : Text) : Bool :=
  match (text.map Text.joining).find? (· != .transparent) with
  | some joining => joining == .both || joining == kind
  | none => false

/-- The two invisible joiners may stand behind the sign of a bare consonant; the one that separates may
also stand between two letters that would join across it. `before` is what stands in front, the last
character first. -/
def joinersFit (before : Text) : Text → Bool
  | [] => true
  | c :: rest =>
    let fits :=
      if c = '\u200c' ∨ c = '\u200d' then
        before.head?.any (Text.combiningClass · == 9) ||
          (c = '\u200c' && meets .behind before && meets .front rest)
      else true
    fits && joinersFit (c :: before) rest

/-- A label does not begin with a mark, and its joiners have something to join. -/
def isWellPlaced (shown : Text) : Bool := !shown.head?.any Text.isMark && joinersFit [] shown

/-- At most this many characters are written in ASCII. -/
def longestShown : Nat := 1000

/-- At most this many characters in ASCII are read. -/
def longestWritten : Nat := 2000

/-- Reads a label of a mapped and composed domain. One behind `xn--` has to be the written form of a
label that the mapping and the composition leave alone. -/
def Label.ofMapped? (text : Text) : Option Label :=
  match Text.after? "xn--".toList text with
  | some encoded =>
    if isAscii encoded && encoded.length ≤ longestWritten then
      match Punycode.decode? encoded with
      | some shown =>
        if !isAscii shown && shown.all isPlain && compose shown == shown && isWellPlaced shown then
          some ⟨text, shown⟩
        else none
      | none => none
    else none
  | none =>
    if isAscii text then some ⟨text, text⟩
    else if isWellPlaced text && text.length ≤ longestShown then
      some ⟨"xn--".toList ++ Punycode.encode text, text⟩
    else none

/-- Directions that may stand anywhere in a label from left to right. -/
def fitsLeftToRight : Text.Direction → Bool
  | .rightToLeft => false
  | .arabicNumber => false
  | _ => true

/-- The label keeps to one direction, so that it is shown the same beside any other: from left to right
it has no letters of the other kind and ends in a letter or a number; from right to left likewise, with
numbers of one kind only. Marks at the end do not count. -/
def keepsDirection (shown : Text) : Bool :=
  let directions := shown.map Text.direction
  match directions with
  | [] => true
  | first :: _ =>
    let last := (directions.reverse.find? (· != .nonspacing)).getD first
    match first with
    | .leftToRight =>
      directions.all fitsLeftToRight && (last == .leftToRight || last == .europeanNumber)
    | .rightToLeft =>
      directions.all (· != .leftToRight) &&
        (last == .rightToLeft || last == .europeanNumber || last == .arabicNumber) &&
        !(directions.contains .europeanNumber && directions.contains .arabicNumber)
    | _ => false

/-- If any label has letters or numbers from right to left, then all keep to one direction. -/
def directionsFit (labels : List Label) : Bool :=
  !(labels.any fun label => label.shown.any Text.isRightToLeft) ||
    labels.all fun label => keepsDirection label.shown

end StreamLinks.Url.Domain
