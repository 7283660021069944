import StreamLinks.Script.Lexeme
/-!
The lookup variable: a table of texts that a script declares right after its strict mode directive
and reads its words from.
-/
namespace StreamLinks.Script

open Pattern

/-- The lookup variable of a script. -/
structure Lookup where
  name : Text
  /-- Its declaration without the closing semicolon or comma. -/
  code : Text
  deriving Repr, DecidableEq

/-- One or more characters other than the quote, in the quotes. -/
def plainQuoted (quote : Char) : Pattern Unit := quoted quote (run (· != quote))

/-- `.split("…")`. -/
def splitCall : Pattern Unit := do
  literal ".split("
  either (plainQuoted '"') (plainQuoted '\'')
  literal ")"

/-- A quoted text of at least one character or escape. -/
def filledQuoted (quote : Char) : Pattern Unit := quoted quote (atLeast 1 (quotedBody quote))

/-- A quoted text in a list, with the blanks around the comma behind it. -/
def listItem : Pattern Unit := do
  either (quoted '"' (quotedBody '"')) (quoted '\'' (quotedBody '\''))
  blanks
  let _ ← optional (do literal ","; blanks)

/-- A text that is split at a separator, or a list of texts. -/
def lookupTable : Pattern Unit :=
  either (do filledQuoted '"'; splitCall) (either (do filledQuoted '\''; splitCall)
    (do literal "["; blanks; oneOrMore listItem; literal "]"))

/-- `var NAME=TABLE`: the name. -/
def lookupDeclaration : Pattern Text := do
  literal "var"; someBlanks
  let word ← name
  blanks; literal "="; blanks; lookupTable
  return word

/-- The declaration behind the strict mode directive, up to a semicolon or comma. -/
def lookupPattern : Pattern Lookup := do
  let quote := one fun c => c == '"' || c == '\''
  quote; literal "use"; someBlanks; literal "strict"; quote; literal ";"; blanks
  let declared ← fun place => (lookupDeclaration place).map fun (word, stop) =>
    ((⟨word, place.rest.take (stop.offset - place.offset)⟩ : Lookup), stop)
  one fun c => c == ';' || c == ','
  return declared

/-- The lookup variable of a script, if it has one. -/
def lookup? (script : Text) : Option Lookup := (lookupPattern.first? script).map (·.value)

end StreamLinks.Script
