import StreamLinks.Text.Basic
/-!
Source templates: every `%s` stands for one argument. Arguments are put in as they are; what they hold
is not looked at.
-/
namespace StreamLinks.Template

/-- The mark of an argument. -/
def hole : Text := "%s".toList

/-- The pieces with the arguments between them. -/
def weave : (pieces arguments : List Text) → Text
  | [], _ => []
  | piece :: pieces, argument :: arguments => piece ++ argument ++ weave pieces arguments
  | piece :: pieces, [] => piece ++ weave pieces []

/-- A template has another number of holes than there are arguments. -/
structure Mismatch where
  holes : Nat
  arguments : Nat
  deriving Repr, DecidableEq

/-- The template with its holes filled in order. -/
def render (template : Text) (arguments : List Text) : Except Mismatch Text :=
  let pieces := Text.splitOn hole template
  if pieces.length - 1 = arguments.length then .ok (weave pieces arguments)
  else .error ⟨pieces.length - 1, arguments.length⟩

end StreamLinks.Template
