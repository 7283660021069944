import StreamLinks.Proofs.Decoder.Recall
import StreamLinks.Proofs.Transform.Length
/-!
Tokens that are decoded to nothing.

An engine that prints nothing is turned down, but the steps of a simple transform may drop a whole token,
and an answer that was given may be empty. There is no other way.
-/
namespace StreamLinks

theorem Runtime.run_ne_nil (runtime : Runtime) (kind : TokenKind) (template : Text)
    (arguments : List Text) (token : Text) (world : World) :
    (runtime.run kind template arguments token world).1 ≠ .ok [] := by
  intro emptied
  cases runtime with
  | unavailable reason => cases emptied
  | ready engine =>
    cases rendered : Template.render template arguments with
    | error mismatch =>
      simp only [run, rendered] at emptied
      cases emptied
    | ok code =>
      rw [run_ready engine kind rendered] at emptied
      cases called : (engine.call code world).1 with
      | error failure =>
        rw [called] at emptied
        cases emptied
      | ok output =>
        simp only [called, Except.bind] at emptied
        split at emptied
        · cases emptied
        · next printed => exact printed (.inl (Except.ok.inj emptied))

namespace Decoder
variable {script : Text} {runtime : Runtime} {kind : TokenKind} {token : Text} {given memo : Memo}

-- The steps of the transform are known, and together they drop the whole token.
def Drains (script : Text) (kind : TokenKind) (token : Text) : Prop :=
  ∃ transform instructions, Script.transform? kind script = .ok transform ∧
    Transform.classify transform.body script = some instructions ∧
    token.length ≤ (instructions.map Instruction.dropped).sum

theorem decodeFresh_eq_nil_iff (script : Text) (runtime : Runtime) (kind : TokenKind) (token : Text)
    (world : World) :
    ((ofScript script runtime).decodeFresh kind token world).1 = .ok [] ↔
      Drains script kind token := by
  rw [decodeFresh, prepared_eq, prepare]
  cases found : Script.transform? kind script with
  | error error => simp [Except.map, Drains, found]
  | ok transform =>
    cases known : Transform.classify transform.body script with
    | none =>
      simp only [Except.map, known]
      refine iff_of_false (runtime.run_ne_nil _ _ _ _ _) ?_
      rintro ⟨other, instructions, sameTransform, steps, -⟩
      cases found.symm.trans sameTransform
      cases known.symm.trans steps
    | some instructions =>
      simp only [Except.map, known, Except.ok.injEq, Instruction.runAll_eq_nil_iff]
      refine ⟨fun short => ⟨transform, instructions, found, known, short⟩, ?_⟩
      rintro ⟨other, steps, sameTransform, sameSteps, short⟩
      cases found.symm.trans sameTransform
      cases known.symm.trans sameSteps
      exact short

-- The token comes out empty: by the answer that was given for it, or by the steps if there was none.
def Emptied (script : Text) (given : Memo) (kind : TokenKind) (token : Text) : Prop :=
  match given.get? kind token with
  | some value => value = []
  | none => Drains script kind token

-- The memo holds the given answers, and whatever else it holds came from decoding.
structure Accounts (script : Text) (given memo : Memo) : Prop where
  kept {kind : TokenKind} {token value : Text} (answered : given.get? kind token = some value) :
    memo.get? kind token = some value
  emptied_iff {kind : TokenKind} {token value : Text} (held : memo.get? kind token = some value) :
    value = [] ↔ Emptied script given kind token

theorem Accounts.refl (script : Text) (given : Memo) : Accounts script given given := by
  refine ⟨id, ?_⟩
  intro kind token value held
  simp only [Emptied, held]

theorem decode_fst_eq_ok_iff {decoder : Decoder} (unkept : memo.get? kind token = none) (world : World)
    (value : Text) :
    (decoder.decode kind token memo world).1 = .ok value ↔
      (decoder.decodeFresh kind token world).1 = .ok value := by
  simp only [decode, Memo.getOrCall, unkept]
  rcases decoder.decodeFresh kind token world with ⟨outcome, after⟩
  cases outcome <;> simp

theorem Accounts.decode_eq_nil_iff (accounts : Accounts script given memo) (runtime : Runtime)
    (kind : TokenKind) (token : Text) (world : World) :
    ((ofScript script runtime).decode kind token memo world).1 = .ok [] ↔
      Emptied script given kind token := by
  cases held : memo.get? kind token with
  | some value =>
    rw [decode_of_kept held, ← accounts.emptied_iff held]
    exact Except.ok.injEq value [] ▸ Iff.rfl
  | none =>
    have unanswered : given.get? kind token = none := by
      cases answered : given.get? kind token with
      | none => rfl
      | some value => exact absurd ((accounts.kept answered).symm.trans held) (by simp)
    rw [decode_fst_eq_ok_iff held, decodeFresh_eq_nil_iff]
    simp only [Emptied, unanswered]

-- The step lemma: what decoding adds to the memo is empty exactly if the token is.
theorem Accounts.decode (accounts : Accounts script given memo) (kind : TokenKind) (token : Text)
    (world : World) :
    Accounts script given ((ofScript script runtime).decode kind token memo world).2.1 := by
  have outcome := accounts.decode_eq_nil_iff runtime kind token world
  rw [decode_memo]
  split
  · next value unkept decoded =>
    refine ⟨?_, ?_⟩
    · intro otherKind other found answered
      have held := accounts.kept answered
      rwa [Memo.get?_insert_of_ne]
      rintro ⟨⟩
      cases unkept.symm.trans held
    · intro otherKind other found held
      by_cases same : (otherKind, other) = (kind, token)
      · cases same
        rw [Memo.get?_insert] at held
        cases held
        rw [decoded] at outcome
        simpa using outcome
      · rw [Memo.get?_insert_of_ne memo value same] at held
        exact accounts.emptied_iff held
  · exact accounts

end Decoder
end StreamLinks
