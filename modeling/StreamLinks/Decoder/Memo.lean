import StreamLinks.World
import StreamLinks.Script.FunctionName
/-!
Decoded tokens, kept apart by kind. Failures are not kept.
-/
namespace StreamLinks

/-- Pairs of a token of a kind and its decoded value, the newest first. -/
structure Memo where
  entries : List ((TokenKind × Text) × Text) := []
  deriving Repr, DecidableEq

namespace Memo

/-- The value of a token. -/
def get? (memo : Memo) (kind : TokenKind) (token : Text) : Option Text :=
  memo.entries.lookup (kind, token)

/-- Keeps a value. -/
def insert (memo : Memo) (kind : TokenKind) (token value : Text) : Memo :=
  ⟨((kind, token), value) :: memo.entries⟩

/-- The kept value of a token, or the outcome of a call, of which a success is kept. -/
def getOrCall (memo : Memo) (kind : TokenKind) (token : Text) (call : Call Text) :
    World → Except Failure Text × Memo × World := fun world =>
  match memo.get? kind token with
  | some value => (.ok value, memo, world)
  | none =>
    match call world with
    | (.ok value, world) => (.ok value, memo.insert kind token value, world)
    | (.error failure, world) => (.error failure.shared, memo, world)

theorem get?_insert (memo : Memo) (kind : TokenKind) (token value : Text) :
    (memo.insert kind token value).get? kind token = some value := by
  simp [get?, insert]

theorem get?_insert_of_ne (memo : Memo) {kind kind' : TokenKind} {token token' : Text}
    (value : Text) (different : (kind', token') ≠ (kind, token)) :
    (memo.insert kind token value).get? kind' token' = memo.get? kind' token' := by
  have skip : ((kind', token') == (kind, token)) = false := by simpa using different
  simp only [get?, insert, List.lookup_cons, skip]

end Memo
end StreamLinks
