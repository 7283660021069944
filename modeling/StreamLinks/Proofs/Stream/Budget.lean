import StreamLinks.Proofs.Decoder.Executions
import StreamLinks.Proofs.Engine.Sources
import StreamLinks.Proofs.Stream.Batch
import StreamLinks.Proofs.Stream.Places
/-!
What one call asks of the engine and of the solver.

There is at most one batch, and it comes first. After it every stream decodes its own tokens, and what the
batch has answered is in the memo by then. So a token is run for its streams only as long as neither the
batch nor a run has given its value.
-/
namespace StreamLinks

namespace Source

-- The tokens that a stream carries.
def keys (source : Source) : List (TokenKind × Text) :=
  source.token.toList.map (.throttle, ·) ++ source.signature.toList.map (.signature, ·)

-- What is decoded for a stream. Without an address nothing is.
def uses (source : Source) : List Decoder.Use :=
  match source.url with
  | none => []
  | some _ => source.keys.map fun (kind, token) => .decode kind token

end Source

namespace Solver

-- The source of a batch. There is none without an engine or without the helpers.
def asked (solver : Solver) (tokens signatures : List Text) (script : Text) (world : World) : List Text :=
  match solver.runtime, (solver.source.ready world).1 with
  | .ready _, .ok helpers => [batch helpers tokens signatures script]
  | _, _ => []

end Solver

namespace Resolver
variable {resolver : Resolver} {decoder : Decoder} {memo : Memo}

section
variable {solver : Solver} {playerUrl : Text} {descriptors : List Descriptor} {world : World}
  {kind : TokenKind} {answers : Answers} {solved : Solved}

end

end Resolver
end StreamLinks
