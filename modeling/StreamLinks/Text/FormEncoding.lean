import StreamLinks.Text.Utf8
/-!
Percent-encoding and the form encoding of query strings: pairs joined by `&`, names and values
joined by `=`, a plus sign for a space, and bytes in hexadecimal for all other special characters.
-/
namespace StreamLinks.Text

/-- The value of a hexadecimal digit. -/
def hexValue? (c : Char) : Option Nat :=
  if c.isDigit then some (c.toNat - 48)
  else if 'a' ≤ c ∧ c ≤ 'f' then some (c.toNat - 87)
  else if 'A' ≤ c ∧ c ≤ 'F' then some (c.toNat - 55)
  else none

/-- The capital hexadecimal digit of a value below 16. -/
def hexDigit (value : Nat) : Char := Char.ofNat (if value < 10 then 48 + value else 55 + value)

/-- A byte as a percent sign and two hexadecimal digits. -/
def percentByte (b : UInt8) : Text := ['%', hexDigit (b.toNat / 16), hexDigit (b.toNat % 16)]

/-- The bytes of a text in which percent signs with two hexadecimal digits stand for bytes. Other
percent signs stand for themselves. -/
def percentDecode : Text → List UInt8
  | [] => []
  | '%' :: high :: low :: rest =>
    match hexValue? high, hexValue? low with
    | some h, some l => UInt8.ofNat (h * 16 + l) :: percentDecode rest
    | _, _ => 0x25 :: percentDecode (high :: low :: rest)
  | c :: rest => String.utf8EncodeChar c ++ percentDecode rest

/-- The text with the bytes of every character of the class percent-encoded. -/
def percentEncode (escaped : Char → Bool) (text : Text) : Text :=
  text.flatMap fun c => if escaped c then (String.utf8EncodeChar c).flatMap percentByte else [c]

/-- The characters that stand for themselves in a form value. -/
def isFormPlain (c : Char) : Bool := c.isAlphanum || c == '*' || c == '-' || c == '.' || c == '_'

/-- A text as the value of a form field. -/
def formEncode (text : Text) : Text :=
  text.flatMap fun c =>
    if c = ' ' then ['+'] else if isFormPlain c then [c]
    else (String.utf8EncodeChar c).flatMap percentByte

/-- The text of a form name or value. -/
def formDecode (text : Text) : Text :=
  ofBytes (percentDecode (text.map fun c => if c = '+' then ' ' else c))

/-- The names and values of a query string. Empty pieces are passed over, and a piece without an
equals sign has an empty value. -/
def formPairs (query : Text) : List (Text × Text) :=
  ((splitAtChar '&' query).filter fun piece => !piece.isEmpty).map fun piece =>
    match cut ['='] piece with
    | some (name, value) => (formDecode name, formDecode value)
    | none => (formDecode piece, [])

end StreamLinks.Text
