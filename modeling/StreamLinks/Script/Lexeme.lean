import StreamLinks.Search.Pattern
import StreamLinks.Text.DecimalDigit
import StreamLinks.Text.WordChar
/-!
The small parts from which the script patterns are put together. Names are ASCII; blanks, decimal
digits and word characters are those of all scripts.
-/
namespace StreamLinks.Script

/-- The characters of the names that minified scripts use. -/
def isNameChar (c : Char) : Bool := c.isAlphanum || c == '_' || c == '$'

/-- A name character or the dot of a member access. -/
def isPathChar (c : Char) : Bool := isNameChar c || c == '.'

/-- A word character of any script or a dollar sign. -/
def isWideNameChar (c : Char) : Bool := Text.isWordChar c || c == '$'

open Pattern

def blanks : Pattern Unit := every Text.isBlank
def someBlanks : Pattern Unit := run Text.isBlank
def name : Pattern Text := taken (run isNameChar)
def digits : Pattern Text := taken (run Text.isDecimalDigit)

/-- One or more blanks before a word that may begin with blanks itself. -/
def blanksBeforeWord : Pattern Unit := atLeast 1 (many Text.isBlank)

/-- No name continues here from the left. -/
def nameStart : Pattern Unit := boundary isNameChar

/-- No name and no member access continues here from the left. -/
def bareStart : Pattern Unit := boundary isPathChar

/-- `var`, `let` or `const` and the blanks behind it. -/
def declarator : Pattern Unit := do
  either (literal "var") (either (literal "let") (literal "const"))
  blanksBeforeWord

/-- Digits in square brackets. -/
def subscript : Pattern Text := do
  literal "["
  let index ← digits
  literal "]"
  return index

/-- The place behind the characters of a quoted text after its opening quote: a backslash takes the next
character with it, unless that is a line feed. -/
def passQuoted (quote : Char) (offset : Nat) (before : Option Char) : Text → Cursor
  | [] => ⟨offset, before, []⟩
  | '\\' :: [] => ⟨offset, before, ['\\']⟩
  | '\\' :: c :: rest =>
    if c = '\n' then ⟨offset, before, '\\' :: c :: rest⟩
    else passQuoted quote (offset + 2) (some c) rest
  | c :: rest =>
    if c = quote then ⟨offset, before, c :: rest⟩ else passQuoted quote (offset + 1) (some c) rest

/-- All characters and escapes of a quoted text. -/
def quotedBody (quote : Char) : Pattern Unit := fun place =>
  [((), passQuoted quote place.offset place.before place.rest)]

/-- A text in the given quotes. -/
def quoted (quote : Char) (body : Pattern Unit) : Pattern Unit := do
  text [quote]
  body
  text [quote]

end StreamLinks.Script
