import StreamLinks.Decoder.Memo
import StreamLinks.Engine.Basic
import StreamLinks.Json.Printer
import StreamLinks.Script.Transform
import StreamLinks.Transform.Classify
/-!
The decoder of one player script: each distinct token is decoded at most once, natively where its
transform is simple, else by running the transform's source.
-/
namespace StreamLinks

namespace Script

def ExtractionError.message : ExtractionError → Text
  | missingName kind => "Failed to extract ".toList ++ kind.tag.toList ++ " function name".toList
  | missingCode kind => "Failed to extract ".toList ++ kind.tag.toList ++ " function code".toList

def ExtractionError.failure (error : ExtractionError) : Failure := .own .extraction error.message

end Script

/-- A transform together with its instructions, if it is simple. -/
structure Prepared where
  transform : Script.Transform
  instructions : Option (List Instruction)
  deriving Repr, DecidableEq

/-- The transform of a kind, ready to be used. -/
def prepare (kind : TokenKind) (script : Text) : Except Script.ExtractionError Prepared :=
  (Script.transform? kind script).map fun transform =>
    ⟨transform, Transform.classify transform.body script⟩

/-- The decoder of one script. -/
structure Decoder where
  script : Text
  runtime : Runtime
  /-- The script holds a guard, so its tokens are not to be decoded in a batch. -/
  guarded : Bool
  signature : Except Script.ExtractionError Prepared
  throttle : Except Script.ExtractionError Prepared

namespace Decoder

def ofScript (script : Text) (runtime : Runtime) : Decoder :=
  { script, runtime
    guarded := Script.hasGuard script
    signature := prepare .signature script
    throttle := prepare .throttle script }

/-- The transform of a kind. -/
def prepared (decoder : Decoder) : TokenKind → Except Script.ExtractionError Prepared
  | .signature => decoder.signature
  | .throttle => decoder.throttle

/-- A transform's source, and a call of it that prints the result. -/
def callTemplate : Text := "%s\nconsole.log(%s(%s));".toList

/-- Decodes a token without looking at what was decoded before. -/
def decodeFresh (decoder : Decoder) (kind : TokenKind) (token : Text) : Call Text := fun world =>
  match decoder.prepared kind with
  | .error error => (.error error.failure, world)
  | .ok prepared =>
    match prepared.instructions with
    | some instructions => (.ok (Instruction.runAll instructions token), world)
    | none =>
      decoder.runtime.run kind callTemplate
        [prepared.transform.code, prepared.transform.name, Json.quote token] token world

/-- Decodes a token, from the memo if it is there. -/
def decode (decoder : Decoder) (kind : TokenKind) (token : Text) (memo : Memo) :
    World → Except Failure Text × Memo × World :=
  memo.getOrCall kind token (decoder.decodeFresh kind token)

end Decoder
end StreamLinks
