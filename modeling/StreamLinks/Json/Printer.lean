import StreamLinks.Json.Basic
import StreamLinks.Text.Numeral
import StreamLinks.Text.FormEncoding
/-!
JSON text: values on one line without blanks, or over several lines with an indent of two.
-/
namespace StreamLinks.Json

/-- A character inside a quoted text. -/
def escape (c : Char) : Text :=
  if c = '"' then ['\\', '"']
  else if c = '\\' then ['\\', '\\']
  else if c = '\x08' then ['\\', 'b']
  else if c = '\x0c' then ['\\', 'f']
  else if c = '\n' then ['\\', 'n']
  else if c = '\r' then ['\\', 'r']
  else if c = '\t' then ['\\', 't']
  else if c.toNat < 0x20 then
    ['\\', 'u', '0', '0', (Text.hexDigit (c.toNat / 16)).toLower, (Text.hexDigit (c.toNat % 16)).toLower]
  else [c]

/-- A text in quotes. -/
def quote (text : Text) : Text := '"' :: text.flatMap escape ++ ['"']

/-- The numeral of a number. -/
def Number.toText : Number → Text
  | natural n => Text.ofNat n
  | negative n => '-' :: Text.ofNat n
  | decimal digits exponent =>
    Text.ofNat digits ++ ['e'] ++
      (if exponent < 0 then '-' :: Text.ofNat exponent.natAbs else Text.ofNat exponent.natAbs)

mutual
/-- The value on one line. -/
def Value.compact : Value → Text
  | .null => "null".toList
  | .broken => "null".toList
  | .bool true => "true".toList
  | .bool false => "false".toList
  | .number value => value.toText
  | .string value => quote value
  | .array items => '[' :: compactItems items ++ [']']
  | .object members => '{' :: compactMembers members ++ ['}']

def compactItems : List Value → Text
  | [] => []
  | [item] => item.compact
  | item :: items => item.compact ++ ',' :: compactItems items

def compactMembers : List (Text × Value) → Text
  | [] => []
  | [(name, value)] => quote name ++ ':' :: value.compact
  | (name, value) :: members => quote name ++ ':' :: value.compact ++ ',' :: compactMembers members
end

/-- A line break and the indent of a depth. -/
def newLine (depth : Nat) : Text := '\n' :: List.replicate (2 * depth) ' '

mutual
/-- The value over several lines. Empty arrays and objects stay on one. -/
def Value.pretty (depth : Nat) : Value → Text
  | .null => "null".toList
  | .broken => "null".toList
  | .bool true => "true".toList
  | .bool false => "false".toList
  | .number value => value.toText
  | .string value => quote value
  | .array [] => "[]".toList
  | .array items => '[' :: prettyItems (depth + 1) items ++ newLine depth ++ [']']
  | .object [] => "\x7b\x7d".toList
  | .object members => '{' :: prettyMembers (depth + 1) members ++ newLine depth ++ ['}']

def prettyItems (depth : Nat) : List Value → Text
  | [] => []
  | [item] => newLine depth ++ item.pretty depth
  | item :: items => newLine depth ++ item.pretty depth ++ ',' :: prettyItems depth items

def prettyMembers (depth : Nat) : List (Text × Value) → Text
  | [] => []
  | [(name, value)] => newLine depth ++ quote name ++ ": ".toList ++ value.pretty depth
  | (name, value) :: members =>
    newLine depth ++ quote name ++ ": ".toList ++ value.pretty depth ++
      ',' :: prettyMembers depth members
end

end StreamLinks.Json
