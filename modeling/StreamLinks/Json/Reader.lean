import StreamLinks.Json.Basic
import StreamLinks.Text.Numeral
import StreamLinks.Text.FormEncoding
/-!
Reading JSON text. The whole text has to be one value with nothing but blanks around it.
-/
namespace StreamLinks.Json

/-- A blank between the parts of a document. -/
def isSpace (c : Char) : Bool := c == ' ' || c == '\t' || c == '\n' || c == '\r'

def skipSpaces (text : Text) : Text := text.dropWhile isSpace

/-- The number that four hexadecimal digits stand for. -/
def hex4? (a b c d : Char) : Option Nat := do
  return (((← Text.hexValue? a) * 16 + (← Text.hexValue? b)) * 16 + (← Text.hexValue? c)) * 16 +
    (← Text.hexValue? d)

/-- The character behind a backslash, other than a hexadecimal escape. -/
def plainEscape? (c : Char) : Option Char :=
  if c = '"' ∨ c = '\\' ∨ c = '/' then some c
  else if c = 'b' then some '\x08'
  else if c = 'f' then some '\x0c'
  else if c = 'n' then some '\n'
  else if c = 'r' then some '\r'
  else if c = 't' then some '\t'
  else none

/-- The character of a surrogate pair. -/
def pairChar (high low : Nat) : Char :=
  Char.ofNat (0x10000 + (high - 0xD800) * 0x400 + (low - 0xDC00))

/-- What has been read of a quoted text behind a place, and the rest. The text is missing when it
holds half of a surrogate pair. -/
abbrev QuotedRead := Option (Option Text × Text)

/-- Puts a character in front of what is read. -/
def QuotedRead.push (c : Char) (read : QuotedRead) : QuotedRead :=
  read.map fun (text, rest) => (text.map (c :: ·), rest)

/-- Takes note of a lone half. -/
def QuotedRead.lose (half : Option Nat) (read : QuotedRead) : QuotedRead :=
  if half.isSome then read.map fun (_, rest) => (none, rest) else read

/-- Reads a quoted text behind its opening quote. `half` is the first half of a surrogate pair that
stands right before. -/
def stringFrom (half : Option Nat) : Text → QuotedRead
  | [] => none
  | '"' :: rest => QuotedRead.lose half (some (some [], rest))
  | '\\' :: 'u' :: a :: b :: c :: d :: rest =>
    match hex4? a b c d with
    | none => none
    | some code =>
      if 0xD800 ≤ code ∧ code < 0xDC00 then QuotedRead.lose half (stringFrom (some code) rest)
      else if 0xDC00 ≤ code ∧ code < 0xE000 then
        match half with
        | some high => QuotedRead.push (pairChar high code) (stringFrom none rest)
        | none => QuotedRead.lose (some code) (stringFrom none rest)
      else QuotedRead.lose half (QuotedRead.push (Char.ofNat code) (stringFrom none rest))
  | '\\' :: c :: rest =>
    match plainEscape? c with
    | none => none
    | some escaped => QuotedRead.lose half (QuotedRead.push escaped (stringFrom none rest))
  | c :: rest =>
    if c.toNat < 0x20 ∨ c = '\\' then none
    else QuotedRead.lose half (QuotedRead.push c (stringFrom none rest))

/-- A run of decimal digits and the rest. -/
def digitRun (text : Text) : Text × Text := (text.takeWhile Char.isDigit, text.dropWhile Char.isDigit)

/-- An exponent behind its letter and the rest. -/
def exponentFrom (text : Text) : Option (Int × Text) :=
  let (negative, unsigned) := match text with
    | '-' :: rest => (true, rest)
    | '+' :: rest => (false, rest)
    | _ => (false, text)
  match digitRun unsigned with
  | ([], _) => none
  | (digits, rest) =>
    let value : Int := Text.digitsValue digits
    some (if negative then -value else value, rest)

/-- The fraction digits and the exponent of a number, where they are given, and the rest. -/
def scaleFrom (text : Text) : Option (Option (Text × Int) × Text) := do
  let (fraction, rest) ← match text with
    | '.' :: rest =>
      match digitRun rest with
      | ([], _) => none
      | (digits, rest) => some (some digits, rest)
    | _ => some (none, text)
  let (exponent, rest) ← match rest with
    | c :: behind =>
      if c = 'e' ∨ c = 'E' then (exponentFrom behind).map fun (value, rest) => (some value, rest)
      else some (none, rest)
    | [] => some (none, rest)
  match fraction, exponent with
  | none, none => return (none, rest)
  | _, _ => return (some (fraction.getD [], exponent.getD 0), rest)

/-- The bound of the words that hold whole numbers and digits. -/
def wordBound : Nat := Nat.pow 2 64

/-- Puts digits behind a value as long as the outcome fits in a word: the outcome, and how many digits
it took. -/
def appendDigits (value : Nat) : Text → Nat × Nat
  | [] => (value, 0)
  | c :: rest =>
    let next := value * 10 + (c.toNat - '0'.toNat)
    if next < wordBound then
      let (last, taken) := appendDigits next rest
      (last, taken + 1)
    else (value, 0)

/-- A number and the rest. Zero may not have another digit behind it. Digits before the point that fit
in no word count as zeros, those behind it not at all. -/
def numberFrom (text : Text) : Option (Number × Text) := do
  let (negative, unsigned) := match text with
    | '-' :: rest => (true, rest)
    | _ => (false, text)
  let (digits, behind) := digitRun unsigned
  if digits.isEmpty || (digits.head? == some '0' && 1 < digits.length) then none
  else
    let (scale, rest) ← scaleFrom behind
    let (value, taken) := appendDigits 0 digits
    let lost := digits.length - taken
    match scale with
    | some (fraction, exponent) =>
      let (value, taken) := appendDigits value fraction
      return (.decimal value (exponent + lost - taken), rest)
    | none =>
      if 0 < lost then return (.decimal value lost, rest)
      else if !negative then return (.natural value, rest)
      else if value = 0 ∨ Nat.pow 2 63 < value then return (.decimal value 0, rest)
      else return (.negative value, rest)

mutual
/-- A value and the rest. Each nested call reads at least one character, so the length of the text
is enough fuel. -/
def valueFrom : (fuel : Nat) → Text → Option (Value × Text)
  | 0, _ => none
  | fuel + 1, text =>
    match skipSpaces text with
    | '"' :: rest =>
      (stringFrom none rest).map fun (text, rest) => ((text.map Value.string).getD .broken, rest)
    | '[' :: rest =>
      match skipSpaces rest with
      | ']' :: rest => some (.array [], rest)
      | rest => (itemsFrom fuel rest).map fun (items, rest) => (.array items, rest)
    | '{' :: rest =>
      match skipSpaces rest with
      | '}' :: rest => some (.object [], rest)
      | rest => (membersFrom fuel rest).map fun (members, rest) =>
          ((members.map Value.object).getD .broken, rest)
    | rest =>
      match Text.after? "null".toList rest, Text.after? "true".toList rest,
        Text.after? "false".toList rest with
      | some rest, _, _ => some (.null, rest)
      | _, some rest, _ => some (.bool true, rest)
      | _, _, some rest => some (.bool false, rest)
      | _, _, _ => (numberFrom rest).map fun (number, rest) => (.number number, rest)

/-- The items of an array up to and with its closing bracket. -/
def itemsFrom : (fuel : Nat) → Text → Option (List Value × Text)
  | 0, _ => none
  | fuel + 1, text =>
    match valueFrom fuel text with
    | none => none
    | some (item, rest) =>
      match skipSpaces rest with
      | ']' :: rest => some ([item], rest)
      | ',' :: rest => (itemsFrom fuel rest).map fun (items, rest) => (item :: items, rest)
      | _ => none

/-- The members of an object up to and with its closing brace. They are missing when a name holds
half of a surrogate pair. -/
def membersFrom : (fuel : Nat) → Text → Option (Option (List (Text × Value)) × Text)
  | 0, _ => none
  | fuel + 1, text =>
    match skipSpaces text with
    | '"' :: rest =>
      match stringFrom none rest with
      | none => none
      | some (name, rest) =>
        match skipSpaces rest with
        | ':' :: rest =>
          match valueFrom fuel rest with
          | none => none
          | some (value, rest) =>
            let member := name.map fun name => (name, value)
            match skipSpaces rest with
            | '}' :: rest => some (member.map ([·]), rest)
            | ',' :: rest =>
              (membersFrom fuel rest).map fun (members, rest) =>
                (member.bind fun member => members.map (member :: ·), rest)
            | _ => none
        | _ => none
    | _ => none
end

/-- Reads a document. -/
def read (text : Text) : Option Value :=
  match valueFrom (2 * text.length + 2) text with
  | some (value, rest) => if (skipSpaces rest).isEmpty then some value else none
  | none => none

end StreamLinks.Json
