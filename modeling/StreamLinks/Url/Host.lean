import StreamLinks.Url.Domain
import StreamLinks.Text.Numeral
/-!
The host of an address: a domain, a numeric address, or, for schemes without a network, plain text.
-/
namespace StreamLinks.Url

inductive Host where
  | domain (name : Text)
  | ipv4 (address : Nat)
  | ipv6 (groups : List Nat)
  /-- The host of a scheme that is not known to name a machine. -/
  | plain (name : Text)
  deriving Repr, DecidableEq

/-- The value of digits in a base, if all are digits of it. -/
def digitsIn? (base : Nat) (text : Text) : Option Nat :=
  (text.mapM fun c => (Text.hexValue? c).filter (· < base)).map
    (·.foldl (fun value digit => value * base + digit) 0)

/-- A part of a dotted address: hexadecimal behind `0x`, octal behind `0`, else decimal. -/
def ipv4Part? (part : Text) : Option Nat :=
  match part with
  | [] => none
  | '0' :: 'x' :: digits => digitsIn? 16 digits
  | '0' :: 'X' :: digits => digitsIn? 16 digits
  | '0' :: c :: digits => digitsIn? 8 (c :: digits)
  | digits => digitsIn? 10 digits

/-- The parts of a dotted name, without an empty one at its end. -/
def dottedParts (name : Text) : List Text :=
  let parts := Text.splitAtChar '.' name
  if parts.getLast? = some [] then parts.dropLast else parts

/-- The last part of a domain is a number, so the domain has to be a dotted address. -/
def endsInNumber (name : Text) : Bool :=
  match Text.splitAtChar '.' name, (dottedParts name).getLast? with
  | [_], some last => isNumber last
  | _, some last => isNumber last
  | _, none => false
where
  isNumber (last : Text) : Bool :=
    (!last.isEmpty && last.all Char.isDigit) || (ipv4Part? last).isSome

/-- A dotted address of at most four parts, of which the last one fills the remaining bytes. -/
def ipv4? (name : Text) : Option Nat := do
  let parts := dottedParts name
  if 4 < parts.length then none
  else
    let numbers ← parts.mapM ipv4Part?
    let last ← numbers.getLast?
    let front := numbers.dropLast
    if Nat.pow 256 (4 - front.length) ≤ last ∨ front.any (255 < ·) then none
    else
      let add (address : Nat) (part : Nat × Nat) : Nat := address + part.1 * Nat.pow 256 (3 - part.2)
      return front.zipIdx.foldl add last

/-- A byte of the dotted end of a grouped address. -/
def plainByte? (text : Text) : Option Nat :=
  match text with
  | '0' :: _ :: _ => none
  | _ => Text.readNat? 256 text

/-- The groups of a grouped address from the right to the left, and the number of groups up to the
gap if there is one. The gap itself counts as a group of zero. At most `fuel` groups are read. -/
def ipv6Groups (groups : List Nat) (gap : Option Nat) : (fuel : Nat) → Text →
    Option (List Nat × Option Nat)
  | _, [] => some (groups, gap)
  | 0, _ => none
  | fuel + 1, c :: rest =>
    if groups.length = 8 then none
    else if c = ':' then
      if gap.isSome then none else ipv6Groups (0 :: groups) (some (groups.length + 1)) fuel rest
    else
      let digits := ((c :: rest).take 4).takeWhile fun c => (Text.hexValue? c).isSome
      let behind := (c :: rest).drop digits.length
      match digitsIn? 16 digits with
      | none => none
      | some value =>
        match behind with
        | [] => some (value :: groups, gap)
        | ':' :: [] => none
        | ':' :: more => ipv6Groups (value :: groups) gap fuel more
        | '.' :: _ =>
          if digits.isEmpty ∨ 6 < groups.length then none
          else
            match (Text.splitAtChar '.' (c :: rest)).mapM plainByte? with
            | some [a, b, c, d] => some ((c * 256 + d) :: (a * 256 + b) :: groups, gap)
            | _ => none
        | _ => none

/-- A grouped address of eight groups, or of fewer with one gap. -/
def ipv6? (text : Text) : Option (List Nat) :=
  let read := match text with
    | [] => none
    | [_] => none
    | ':' :: ':' :: rest => ipv6Groups [0] (some 1) 9 rest
    | ':' :: _ => none
    | _ => ipv6Groups [] none 9 text
  match read with
  | some (groups, some gap) =>
    let all := groups.reverse
    some (all.take gap ++ List.replicate (8 - all.length) 0 ++ all.drop gap)
  | some (groups, none) => if groups.length = 8 then some groups.reverse else none
  | none => none

/-- The host of a scheme that names a machine. -/
def Host.ofNetwork (written : Text) : Except ParseError Host :=
  match written with
  | '[' :: inside =>
    if inside.getLast? = some ']' then
      match ipv6? inside.dropLast with
      | some groups => .ok (.ipv6 groups)
      | none => .error .badIpv6
    else .error .badIpv6
  | _ => do
    let name ← Url.domain written
    if endsInNumber name then
      match ipv4? name with
      | some address => .ok (.ipv4 address)
      | none => .error .badIpv4
    else .ok (.domain name)

/-- A control character or a character beyond ASCII. -/
def isControl (c : Char) : Bool := c.toNat < 0x20 || 0x7F ≤ c.toNat

/-- The host of another scheme. -/
def Host.ofOther (written : Text) : Except ParseError Host :=
  match written with
  | '[' :: _ => Host.ofNetwork written
  | _ =>
    if written.any fun c => "\x00\t\n\r #/:<>?@[\\]^|".toList.contains c then
      .error .badHostCharacter
    else .ok (.plain (Text.percentEncode isControl written))

/-- The longest run of zero groups that is longer than one, the first of the longest: its start and
its length. -/
def longestZeros (groups : List Nat) : Nat × Nat :=
  (List.range groups.length).foldl (fun (start, length) place =>
    let here := ((groups.drop place).takeWhile (· == 0)).length
    if length < here ∧ 2 ≤ here then (place, here) else (start, length)) (0, 0)

/-- Groups in hexadecimal with colons between them. -/
def groupsText (groups : List Nat) : Text := Text.join [':'] (groups.map (Nat.toDigits 16))

def Host.toText : Host → Text
  | domain name => name
  | plain name => name
  | ipv4 address =>
    Text.join ['.'] ([3, 2, 1, 0].map fun place => Text.ofNat (address / Nat.pow 256 place % 256))
  | ipv6 groups =>
    let (start, length) := longestZeros groups
    let inside :=
      if length = 0 then groupsText groups
      else groupsText (groups.take start) ++ [':', ':'] ++ groupsText (groups.drop (start + length))
    '[' :: inside ++ [']']

end StreamLinks.Url
