import StreamLinks.Script.Lexeme
/-!
Code outside literals. Brackets and semicolons only count where they stand neither in a quoted text
nor in a pattern literal between slashes; this module lists those places and finds the brace or the
semicolon that ends a piece of code.
-/
namespace StreamLinks.Script

/-- Blank in the sense of ASCII: space, tab, line feed, form feed and carriage return. -/
def isAsciiBlank (c : Char) : Bool :=
  c == ' ' || c == '\t' || c == '\n' || c == '\x0c' || c == '\r'

/-- The characters after which a slash opens a pattern literal instead of dividing. -/
def opensLiteral (c : Char) : Bool := "(,=[:!&|?\x7b\x7d;".toList.contains c

/-- The number of characters from behind the opening slash of a pattern literal up to and with its
closing slash. A slash in a class does not close, and a literal does not reach over a line. -/
def literalLength? : (inClass : Bool) → Text → Option Nat
  | _, [] => none
  | _, '\\' :: [] => none
  | inClass, '\\' :: _ :: rest => (literalLength? inClass rest).map (· + 2)
  | inClass, c :: rest =>
    if c = '\n' then none
    else if c = '/' ∧ !inClass then some 1
    else
      let stays := if c = '[' then true else if c = ']' then false else inClass
      (literalLength? stays rest).map (· + 1)

/-- Where a walk over code stands. -/
inductive Region where
  | code
  /-- Inside a quoted text. -/
  | quoted (quote : Char)
  /-- Behind a backslash inside a quoted text. -/
  | escaped (quote : Char)
  /-- Inside a pattern literal of which `left` characters follow after the current one. -/
  | literal (left : Nat)
  deriving Repr, DecidableEq

/-- The characters outside literals with their offsets. `before` is the nearest character to the
left that is not blank. -/
def codeFrom (region : Region) (before : Option Char) (offset : Nat) : Text → List (Nat × Char)
  | [] => []
  | c :: rest =>
    let seen := if isAsciiBlank c then before else some c
    match region with
    | .quoted quote =>
      let next := if c = '\\' then .escaped quote else if c = quote then .code else .quoted quote
      codeFrom next seen (offset + 1) rest
    | .escaped quote => codeFrom (.quoted quote) seen (offset + 1) rest
    | .literal (left + 1) => codeFrom (.literal left) seen (offset + 1) rest
    | .literal 0 => codeFrom .code seen (offset + 1) rest
    | .code =>
      if c = '"' ∨ c = '\'' ∨ c = '\x60' then codeFrom (.quoted c) seen (offset + 1) rest
      else if c = '/' ∧ before.all opensLiteral then
        match literalLength? false rest with
        | some (length + 1) => codeFrom (.literal length) seen (offset + 1) rest
        | _ => codeFrom .code seen (offset + 1) rest
      else (offset, c) :: codeFrom .code seen (offset + 1) rest

/-- The characters of a text outside literals with their offsets. -/
def code (text : Text) : List (Nat × Char) := codeFrom .code none 0 text

/-- The offset of the brace with which the depth falls back to zero. -/
def closingBrace (depth : Nat) : List (Nat × Char) → Option Nat
  | [] => none
  | (offset, c) :: rest =>
    if c = '{' then closingBrace (depth + 1) rest
    else if c = '}' then if depth ≤ 1 then some offset else closingBrace (depth - 1) rest
    else closingBrace depth rest

/-- The offset of the brace that closes the one with which the text begins. -/
def matchingBrace (text : Text) : Option Nat := closingBrace 0 (code text)

/-- The offset of the first semicolon outside all brackets. A closing bracket without an opening one
does not count. -/
def closingSemicolon (depth : Nat) : List (Nat × Char) → Option Nat
  | [] => none
  | (offset, c) :: rest =>
    if c = '{' ∨ c = '[' ∨ c = '(' then closingSemicolon (depth + 1) rest
    else if c = '}' ∨ c = ']' ∨ c = ')' then closingSemicolon (depth - 1) rest
    else if c = ';' ∧ depth = 0 then some offset
    else closingSemicolon depth rest

/-- The offset of the semicolon that ends the statement with which the text begins. -/
def statementEnd (text : Text) : Option Nat := closingSemicolon 0 (code text)

end StreamLinks.Script
