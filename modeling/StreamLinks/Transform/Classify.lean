import StreamLinks.Script.Definition
import StreamLinks.Text.Numeral
import StreamLinks.Transform.Instruction
/-!
Reading a transform's body as a list of simple instructions.

A body is simple when it splits its argument into characters, passes it to helper functions one after
the other, and joins it again. What a helper does is told from its definition.
-/
namespace StreamLinks.Transform

open Script Pattern

/-- A statement of a simple body. -/
inductive Statement where
  /-- `a=a.split("")`. -/
  | split (param : Text)
  /-- `object.function(param,value)`; the value is 0 when it is left out. -/
  | call (object function param : Text) (value : Nat)
  /-- `return a.join("")`. -/
  | join (param : Text)
  deriving Repr, DecidableEq

/-- A call of a method on the empty text. -/
def onEmptyText (method : String) : Pattern Unit := do
  literal method; literal "("; blanks; literal "\"\""; blanks; literal ")"

def splitStatement : Pattern (Text × Text) := do
  let target ← name
  blanks; literal "="; blanks
  let source ← name
  onEmptyText ".split"
  return (target, source)

def joinStatement : Pattern Text := do
  literal "return"; someBlanks
  let param ← name
  onEmptyText ".join"
  return param

/-- The parts of a helper call, with the numeral behind the comma if there is one. -/
def callStatement : Pattern (Text × Text × Text × Option Text) := do
  let object ← name
  literal "."
  let function ← name
  literal "("; blanks
  let param ← name
  blanks
  let value ← optional (do literal ","; blanks; let value ← digits; blanks; return value)
  literal ")"
  return (object, function, param, value)

/-- Arguments of helper calls are unsigned words. -/
def argumentBound : Nat := Nat.pow 2 64

/-- Reads a trimmed statement. -/
def Statement.read? (statement : Text) : Option Statement :=
  match splitStatement.whole? statement with
  | some (target, source) => if target = source then some (.split target) else none
  | none =>
    match joinStatement.whole? statement with
    | some param => some (.join param)
    | none => do
      let (object, function, param, numeral) ← callStatement.whole? statement
      match numeral with
      | none => return .call object function param 0
      | some numeral => return .call object function param (← Text.readNat? argumentBound numeral)

/-- What a helper function does. -/
inductive Operation where
  | swap
  | splice
  | reverse
  deriving Repr, DecidableEq

def Operation.instruction : Operation → Nat → Instruction
  | swap, value => .swap value
  | splice, value => .splice value
  | reverse, _ => .reverse

/-- `NAME:function(…){BODY}` up to the first closing brace: the body. -/
def helperDefinition (word : Text) : Pattern Text := do
  nameStart
  text word; blanks; literal ":"; blanks; literal "function"; blanks
  literal "("; every (· != ')'); literal ")"; blanks; literal "\x7b"
  let body ← taken (every (· != '}'))
  literal "\x7d"
  return body

/-- `var NAME={` with any declarator. -/
def objectStart (word : Text) : Pattern Unit := do
  bareStart
  declarator; text word; blanks; literal "="; blanks; literal "\x7b"

/-- The text up to the brace that closes the given depth; every brace counts. -/
def untilClosed (depth : Nat) : Text → Option Text
  | [] => none
  | c :: rest =>
    if c = '{' then (untilClosed (depth + 1) rest).map (c :: ·)
    else if c = '}' then
      if depth ≤ 1 then some [] else (untilClosed (depth - 1) rest).map (c :: ·)
    else (untilClosed depth rest).map (c :: ·)

/-- The text between the braces of an object that the script declares. -/
def objectText? (object script : Text) : Option Text :=
  ((objectStart object).first? script).bind fun found => untilClosed 1 found.stop.rest

/-- The body of a helper function, looked for in its object first and then in the whole script. -/
def helperBody? (object function script : Text) : Option Text :=
  let definition := helperDefinition function
  let inObject := (objectText? object script).bind fun inside => definition.first? inside
  (inObject.or (definition.first? script)).map (·.value)

/-- The operation of a helper body, told by the property that it uses. -/
def operationOf? (body : Text) : Option Operation :=
  if Text.contains ".splice".toList body then some .splice
  else if Text.contains ".length".toList body then some .swap
  else if Text.contains ".reverse".toList body then some .reverse
  else none

/-- The operation of a helper function. -/
def operation? (object function script : Text) : Option Operation :=
  (helperBody? object function script).bind operationOf?

/-- The instructions of the calls of a body. The operation of a function name is that of its first
call; `known` holds those of the calls before. -/
def instructions? (param script : Text) (known : List (Text × Operation)) :
    List Statement → Option (List Instruction)
  | [] => some []
  | .call object function argument value :: rest =>
    if argument ≠ param then none
    else
      match known.lookup function with
      | some operation =>
        (instructions? param script known rest).map (operation.instruction value :: ·)
      | none =>
        match operation? object function script with
        | some operation =>
          (instructions? param script ((function, operation) :: known) rest).map
            (operation.instruction value :: ·)
        | none => none
  | _ :: _ => none

/-- The statements of a body, trimmed, without the empty ones. -/
def statementsOf (body : Text) : List Text :=
  ((Text.splitAtChar ';' body).map Text.trim).filter fun statement => !statement.isEmpty

/-- The instructions of a body if it is simple. -/
def classify (body script : Text) : Option (List Instruction) :=
  match (statementsOf body).mapM Statement.read? with
  | some (.split param :: rest) =>
    match rest.getLast? with
    | some (.join joined) =>
      if param = joined then instructions? param script [] rest.dropLast else none
    | _ => none
  | _ => none

end StreamLinks.Transform
