import StreamLinks.Script.Lexeme
/-!
The `typeof` guard: a statement with which a transform returns early when a global is missing. It is
a landmark for finding the transform, and is taken out of source that is to be run.
-/
namespace StreamLinks.Script

open Pattern

/-- `;if(typeof X===undefined-test)return Y;` with blanks between the parts. -/
def guardPattern : Pattern Unit := do
  literal ";"; blanks; literal "if"; blanks; literal "("; blanks
  literal "typeof"; someBlanks; run isNameChar; blanks
  literal "=="; let _ ← optional (literal "="); blanks
  either (literal "\"undefined\"") (either (literal "'undefined'")
    (do run isWideNameChar; let _ ← subscript))
  blanks; literal ")"; blanks
  literal "return"; someBlanks; run isWideNameChar; literal ";"

/-- The script holds a guard. -/
def hasGuard (script : Text) : Bool := (guardPattern.first? script).isSome

/-- Every guard becomes the semicolon that it began with. -/
def dropGuards (code : Text) : Text := guardPattern.replace [';'] code

end StreamLinks.Script
