import StreamLinks.Text.Basic
/-!
Coloured text for terminals.
-/
namespace StreamLinks

/-- How a text stands out. -/
inductive Paint where
  | bold
  | dimmed
  | underlined
  | red
  | green
  | yellow
  | magenta
  | cyan
  deriving Repr, DecidableEq

namespace Paint

/-- The code that a terminal knows a paint by. -/
def code : Paint → String
  | bold => "1"
  | dimmed => "2"
  | underlined => "4"
  | red => "31"
  | green => "32"
  | yellow => "33"
  | magenta => "35"
  | cyan => "36"

/-- Ends all paint. -/
def reset : Text := "\x1b[0m".toList

/-- Starts some paint. -/
def start (paints : List Paint) : Text :=
  "\x1b[".toList ++ Text.join [';'] (paints.map (·.code.toList)) ++ ['m']

/-- The text in some paint, which starts again after every reset inside the text. -/
def apply (coloured : Bool) (paints : List Paint) (text : Text) : Text :=
  if coloured && !paints.isEmpty then
    start paints ++ Text.replaceAll reset (reset ++ start paints) text ++ reset
  else text

/-- The variables that say whether paint is wanted. -/
def variableNames : List Text := ["CLICOLOR", "CLICOLOR_FORCE", "NO_COLOR"].map String.toList

/-- A wish, if a variable holds one: only a zero means no. -/
def wish? (environment : Text → Option Text) (name : String) : Option Bool :=
  (environment name.toList).map fun value => value != ['0']

/-- Paint that is forced is wanted anywhere; else it must not be refused, and must be for a
terminal. -/
def isWanted (environment : Text → Option Text) (onTerminal : Bool) : Bool :=
  if wish? environment "CLICOLOR_FORCE" = some true then true
  else if (wish? environment "NO_COLOR").isSome then false
  else onTerminal && (wish? environment "CLICOLOR").getD true

end Paint
end StreamLinks
