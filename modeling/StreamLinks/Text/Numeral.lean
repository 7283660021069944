import StreamLinks.Text.Basic
/-!
Decimal numerals: their text, and reading them below a bound.
-/
namespace StreamLinks.Text

/-- The number that a list of decimal digits stands for, the most significant first. -/
def digitsValue (digits : Text) : Nat :=
  digits.foldl (fun value c => value * 10 + (c.toNat - '0'.toNat)) 0

/-- A non-empty run of ASCII digits that stands for a number below `bound`. -/
def readNat? (bound : Nat) (text : Text) : Option Nat :=
  if text.isEmpty || !text.all Char.isDigit then none
  else
    let value := digitsValue text
    if value < bound then some value else none

/-- As `readNat?`, with an optional plus sign in front. -/
def readSigned? (bound : Nat) (text : Text) : Option Nat :=
  match text with
  | '+' :: digits => readNat? bound digits
  | _ => readNat? bound text

/-- The decimal digits of a number. -/
def ofNat (n : Nat) : Text := Nat.toDigits 10 n

end StreamLinks.Text
