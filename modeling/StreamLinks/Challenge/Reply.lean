import StreamLinks.Failure
import StreamLinks.Json.Decode
import StreamLinks.Json.Reader
/-!
What the batch solver prints: one part for each kind of token, and in each the decoded values by
token.

Every part says by its member `type` whether it is a result or an error. A part may also be an array
that begins with its type. Whatever a part holds has to be proper, even if nobody asks for it.
-/
namespace StreamLinks

/-- Decoded values by token. -/
abbrev Answers := List (Text × Text)

/-- The decoded values of a batch. -/
structure Solved where
  throttle : Answers
  signature : Answers
  deriving Repr, DecidableEq

/-- A result, or an error with a text of its own. -/
inductive Part (α : Type) where
  | result (value : α)
  | error (text : Option Text)
  deriving Repr, DecidableEq

/-- Why a reply is of no use. -/
inductive ReplyError where
  /-- Not in the form of a reply. -/
  | malformed
  | told (text : Option Text)
  | missingThrottle
  | missingSignature
  deriving Repr, DecidableEq

def ReplyError.detail : ReplyError → Text
  | malformed => "invalid value".toList
  | told text => text.getD "error".toList
  | missingThrottle => "missing n response".toList
  | missingSignature => "missing sig response".toList

def ReplyError.failure (error : ReplyError) : Failure :=
  .own .execution ("Unexpected solver response: ".toList ++ error.detail)

namespace Part

/-- The member that tells parts apart. -/
def tag : Text := "type".toList

/-- The type of a part and the rest of it. -/
def untag : Json.Value → Option (Json.Value × Json.Value)
  | .object given =>
    match Json.members tag given with
    | [type] => some (type, .object (given.filter fun (name, _) => name != tag))
    | _ => none
  | .array (type :: items) => some (type, .array items)
  | _ => none

/-- Reads a part. `byPlace` allows the place of a type in their list instead of its name. -/
def ofJson? (byPlace : Bool) (field : String) (read : Json.Value → Option α)
    (value : Json.Value) : Option (Part α) := do
  let (type, rest) ← untag value
  let isResult ← match type with
    | .string name =>
      if name = "result".toList then some true
      else if name = "error".toList then some false
      else none
    | .number (.natural 0) => if byPlace then some true else none
    | .number (.natural 1) => if byPlace then some false else none
    | _ => none
  if isResult then
    match ← Json.fields [⟨field, false⟩] rest with
    | [value] => return .result (← Json.required read value)
    | _ => none
  else
    match ← Json.fields [⟨"error", false⟩] rest with
    | [text] => return .error (← Json.optional Json.text? text)
    | _ => none

/-- The result, or the error that the part is. -/
def toExcept : Part α → Except ReplyError α
  | result value => .ok value
  | error text => .error (.told text)

end Part

namespace Solved

/-- The last value of each name, without those that are no text. -/
def textsByName : List (Text × Json.Value) → Answers
  | [] => []
  | (name, value) :: rest =>
    if rest.any fun (other, _) => other == name then textsByName rest
    else
      match value with
      | .string text => (name, text) :: textsByName rest
      | _ => textsByName rest

/-- Reads the answers of one kind. -/
def answersOfJson? (value : Json.Value) : Option Answers :=
  (Json.mapOf? some value).map textsByName

/-- Values inside a reply nest this deep. -/
def room : Nat := 127

/-- Reads a printed reply. -/
def ofReply (reply : Text) : Except ReplyError Solved := do
  let outer := do
    let value ← Json.read reply
    if value.isKept room then
      Part.ofJson? false "responses"
        (Json.listOf? (Part.ofJson? true "data" answersOfJson?)) value
    else none
  let parts ← match outer with
    | none => throw .malformed
    | some part => part.toExcept
  let throttle ← match parts with
    | [] => throw .missingThrottle
    | part :: _ => part.toExcept
  let signature ← match parts.tail with
    | [] => throw .missingSignature
    | part :: _ => part.toExcept
  return { throttle, signature }

end Solved
end StreamLinks
