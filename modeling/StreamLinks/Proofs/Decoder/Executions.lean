import Mathlib.Data.List.Forall2
import StreamLinks.Proofs.Decoder.Recall
/-!
What decoding asks of the engine.

A use gives at most one source to the engine, and none for a token that the memo holds. The memo only grows,
so after a success the token is never run again. What uses leave behind in the world are their executions
and nothing else.
-/
namespace StreamLinks

-- A source that was given to the engine for a token, and what came of the decoding.
structure Execution where
  kind : TokenKind
  token : Text
  source : Text
  outcome : Except Failure Text

def Execution.key (execution : Execution) : TokenKind × Text := (execution.kind, execution.token)

namespace Decoder
variable {decoder : Decoder} {use : Use} {state : Memo × World}

end Decoder
end StreamLinks
