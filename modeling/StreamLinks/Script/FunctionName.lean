import StreamLinks.Script.Guard
import StreamLinks.Text.Numeral
/-!
The name of the function that transforms a token.

Every kind of token has a list of places where players call or define its transform. They are tried
in order, and the first one that is found gives the name. A name that stands for an array at the top
of the script is replaced by the array's element.
-/
namespace StreamLinks

/-- What a token is for, and so which transform belongs to it. -/
inductive TokenKind where
  /-- The signature of a ciphered address. -/
  | signature
  /-- The `n` parameter, which throttles a download. -/
  | throttle
  deriving Repr, DecidableEq

namespace TokenKind

/-- The short name of a kind in requests and messages. -/
def tag : TokenKind → String
  | signature => "sig"
  | throttle => "n"

end TokenKind

namespace Script

open Pattern

/-- A name as a call site writes it, perhaps with an index behind it. -/
structure NameUse where
  name : Text
  index : Option Nat := none
  deriving Repr, DecidableEq

/-- Indices are unsigned words; other numerals count as no index. -/
def indexBound : Nat := Nat.pow 2 64

/-- A name and the index behind it. -/
def indexedName : Pattern NameUse := do
  let word ← name
  let index ← optional subscript
  return ⟨word, index.bind (Text.readNat? indexBound)⟩

/-- One ASCII letter. -/
def letter : Pattern Unit := one Char.isAlpha

/-- `X&&(X=NAME(decodeURIComponent(X))`: the three places of `X`, and the name. -/
def decodedCall : Pattern ((Text × Text × Text) × Text) := do
  nameStart
  let guarded ← name
  literal "&&("
  let target ← name
  literal "="
  let function ← taken (atLeast 2 (every isNameChar))
  literal "(decodeURIComponent("
  let argument ← name
  literal "))"
  return ((guarded, target, argument), function)

def nameByDecodedCall (script : Text) : Option NameUse :=
  (decodedCall.all script).findSome? fun found =>
    let ((guarded, target, argument), function) := found.value
    if guarded = target ∧ target = argument then some ⟨function, none⟩ else none

/-- `""` in round brackets behind a method name. -/
def emptyTextArgument : Pattern Unit := do
  literal "("; blanks; literal "\"\""; blanks; literal ")"

/-- `return a.join("")`: the name `a`. -/
def joinReturn : Pattern Text := do
  blanks; literal "return"; someBlanks
  let result ← name
  literal ".join"; emptyTextArgument
  return result

/-- `NAME=function(a){a=a.split("");…;return a.join("")`: the name, and the four places of `a`. -/
def splitJoinBody : Pattern (Text × List Text) := do
  fresh isNameChar
  let function ← name
  blanks; literal "="; blanks; literal "function("; blanks
  let parameter ← name
  blanks; literal ")"; blanks; literal "\x7b"; blanks
  let target ← name
  blanks; literal "="; blanks
  let source ← name
  literal ".split"; emptyTextArgument; blanks; literal ";"
  let result ← runThen (· != '}') ';' joinReturn
  return (function, [parameter, target, source, result])

def nameBySplitJoinBody (script : Text) : Option NameUse :=
  (splitJoinBody.all script).findSome? fun found =>
    let (function, places) := found.value
    if places.all (some · == places.head?) then some ⟨function, none⟩ else none

/-- `NAME=function(a){a=a.split("")`. -/
def splitPrologue : Pattern Text := do
  nameStart
  let function ← taken (atLeast 2 (every isNameChar))
  blanks; literal "="; blanks; literal "function("; blanks; literal "a"; blanks; literal ")"
  blanks; literal "\x7b"; blanks; literal "a"; blanks; literal "="; blanks; literal "a.split"
  emptyTextArgument
  return function

def nameBySplitPrologue (script : Text) : Option NameUse :=
  (splitPrologue.first? script).map fun found => ⟨found.value, none⟩

/-- `.get("n"))&&(b=NAME[i](b)`. -/
def getterCall : Pattern NameUse := do
  literal ".get(\"n\"))&&("; run isNameChar; literal "="
  let use ← indexedName
  literal "("; one isNameChar; literal ")"
  return use

/-- `b=String.fromCharCode(110)` or `X&&(b="nn"[+X]`, then `,c=a.get(b))&&(c=NAME[i](c)`. The two
places of `X` are given when the second form stands there. -/
def charCodeCall : Pattern (Option (Text × Text) × NameUse) := do
  let conditions ← either
    (do literal "b=String.fromCharCode(110)"; return none)
    (do
      fresh isPathChar
      let condition ← taken (run isPathChar)
      literal "&&(b=\"nn\"[+"
      let place ← taken (run isPathChar)
      literal "]"
      return some (condition, place))
  let _ ← optional (do literal ","; run isNameChar; literal "(a)")
  literal ",c=a."
  either (literal "get(b)") (do run isNameChar; literal "[b]||null")
  literal ")&&(c="
  let use ← indexedName
  literal "("; letter; literal ")"
  return (conditions, use)

/-- `X=NAME[i](a),Y.set("n",X)`: the two places of `X`, and the name. -/
def setterCall : Pattern ((Text × Text) × NameUse) := do
  nameStart
  let target ← name
  literal "="
  let use ← indexedName
  literal "("; letter; literal "),"; run isNameChar; literal ".set("
  either (do literal "\""; run (· == 'n'); literal "\"") (run isNameChar)
  literal ","
  let value ← name
  literal ")"
  return ((target, value), use)

def nameByCallSite (script : Text) : Option NameUse :=
  match getterCall.first? script with
  | some found => some found.value
  | none =>
    let byCharCode := (charCodeCall.all script).findSome? fun found =>
      let (conditions, use) := found.value
      if conditions.all (fun (condition, place) => condition == place) then some use else none
    match byCharCode with
    | some use => some use
    | none => (setterCall.all script).findSome? fun found =>
        let ((target, value), use) := found.value
        if target = value then some use else none

/-- `NAME=function(PARAMETER){` at the given kind of start. -/
def functionStart (opening : Pattern Unit) (word : Pattern Text) (parameter : Pattern Unit) :
    Pattern Text := do
  opening
  let function ← word
  blanks; literal "="; blanks; literal "function("; parameter; literal ")"; blanks; literal "\x7b"
  return function

/-- The match that stops last at or before a landmark. -/
def lastBefore? (starts : List (Match α)) (landmark : Nat) : Option (Match α) :=
  (starts.filter fun found => found.stop.offset ≤ landmark).getLast?

/-- The function that starts last before a landmark, if no `};` stands between its opening brace and
the landmark. -/
def enclosingName (starts : List (Match Text)) (landmark : Nat) : Option NameUse :=
  match lastBefore? starts landmark with
  | some found =>
    if Text.contains "\x7d;".toList (found.stop.rest.take (landmark - found.stop.offset)) then none
    else some ⟨found.value, none⟩
  | none => none

/-- `return "…_w8_"+X`. -/
def markedReturn : Pattern Unit := do
  literal "return"; blanks
  one (fun c => c == '"' || c == '\'')
  let word ← taken (atLeast 5 (every fun c => Text.isWordChar c || c == '-'))
  check (Text.startsWith "_8w_".toList word.reverse)
  one (fun c => c == '"' || c == '\'')
  blanks; literal "+"; blanks; run isNameChar

def nameByMarkedReturn (script : Text) : Option NameUse :=
  let starts := (functionStart (do literal ";"; blanks) name (run isNameChar)).all script
  (markedReturn.all script).findSome? fun found => enclosingName starts found.start

/-- `catch(e){return helper[i]+X}`: the name `X`. -/
def catchReturn : Pattern Text := do
  literal "catch("; blanks; run isNameChar; blanks; literal ")"; blanks; literal "\x7b"; blanks
  literal "return"; someBlanks; run isNameChar
  let _ ← subscript
  blanks; literal "+"; blanks
  let argument ← name
  blanks; literal "\x7d"
  return argument

/-- `NAME=function(PARAMETER){`: the name and the parameter. -/
def parameterStart : Pattern (Text × Text) := do
  bareStart
  let function ← name
  blanks; literal "="; blanks; literal "function("; blanks
  let parameter ← name
  blanks; literal ")"; blanks; literal "\x7b"
  return (function, parameter)

def nameByCatchReturn (script : Text) : Option NameUse :=
  let starts := parameterStart.everywhere script
  (catchReturn.all script).findSome? fun found =>
    let fitting := apart 0 (starts.filter fun start => start.value.2 = found.value)
    (lastBefore? fitting found.start).map fun definition => ⟨definition.value.1, none⟩

def nameByGuard (script : Text) : Option NameUse :=
  let start := functionStart bareStart (taken (exactly 3 (every isNameChar)))
    (do blanks; run isNameChar; blanks)
  let starts := start.all script
  (guardPattern.all script).findSome? fun found => enclosingName starts found.start

/-- The ways of finding a transform's name, in the order in which they are tried. -/
def nameAttempts : TokenKind → List (Text → Option NameUse)
  | .signature => [nameByDecodedCall, nameBySplitJoinBody, nameBySplitPrologue]
  | .throttle => [nameByCallSite, nameByMarkedReturn, nameByCatchReturn, nameByGuard]

/-- `var NAME=[…];`: the text between the brackets. -/
def arrayOf (word : Text) : Pattern Text := do
  literal "var"; someBlanks; text word; blanks; literal "="; blanks; literal "["
  let elements ← taken (every (· != ']'))
  literal "]"; blanks; literal ";"
  return elements

/-- The element that a name stands for when the script declares it as an array of names, and the
name itself otherwise. Without an index the first element is meant. -/
def NameUse.resolve (use : NameUse) (script : Text) : Text :=
  let element := ((arrayOf use.name).first? script).bind fun found =>
    ((Text.splitAtChar ',' found.value)[use.index.getD 0]?).map Text.trim
  match element with
  | some word => if !word.isEmpty && word.all isNameChar then word else use.name
  | none => use.name

/-- The name of the function that transforms tokens of a kind. -/
def functionName? (kind : TokenKind) (script : Text) : Option Text :=
  ((nameAttempts kind).findSome? fun attempt => attempt script).map (·.resolve script)

end Script
end StreamLinks
