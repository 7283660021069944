import StreamLinks.Decoder.Basic
import StreamLinks.Proofs.Engine.Runs
/-!
Decoders over engines that answer by the source alone.

With such an engine a token has one answer, the one that a fresh decoder gives. A memo is coherent when
all that it keeps are such answers; decoding keeps it coherent and gives the answer of a fresh decoder.
-/
namespace StreamLinks

-- What is printed does not depend on what was run before or on what went out meanwhile.
def Engine.Steady (engine : Engine) : Prop :=
  ∃ reply : Text → Except Failure Text,
    ∀ earlier code trace, (engine.execute earlier code trace).1 = reply code

-- Without an engine every run ends in the same failure, so nothing is asked of it.
def Runtime.Steady : Runtime → Prop
  | .ready engine => engine.Steady
  | .unavailable _ => True

theorem Engine.scripted_steady (describe : Text) (reply : Text → Except Failure Text) :
    (Engine.scripted describe fun _ code => reply code).Steady := ⟨reply, fun _ _ _ => rfl⟩

theorem Engine.call_fst (engine : Engine) (code : Text) (world : World) :
    (engine.call code world).1 = (engine.execute world.codes code world.trace).1 := rfl

theorem Engine.call_steady {engine : Engine} (steady : engine.Steady) (code : Text)
    (world other : World) : (engine.call code world).1 = (engine.call code other).1 := by
  obtain ⟨reply, replies⟩ := steady
  rw [call_fst, call_fst, replies, replies]

-- The outcome of a run is the engine's outcome, checked.
theorem Runtime.run_ready (engine : Engine) (kind : TokenKind) {template code : Text}
    {arguments : List Text} (rendered : Template.render template arguments = .ok code)
    (token : Text) (world : World) :
    ((Runtime.ready engine).run kind template arguments token world).1 =
      (engine.call code world).1.bind fun output =>
        if output = [] ∨ output = token then
          .error (ExecutionError.unsolved kind arguments[1]? engine.describe).failure
        else .ok output := by
  simp only [Runtime.run, rendered]
  rcases engine.call code world with ⟨outcome, after⟩
  cases outcome with
  | error failure => rfl
  | ok output =>
    simp only [Except.bind]
    split <;> rfl

theorem Runtime.run_steady {runtime : Runtime} (steady : runtime.Steady) (kind : TokenKind)
    (template : Text) (arguments : List Text) (token : Text) (world other : World) :
    (runtime.run kind template arguments token world).1 =
      (runtime.run kind template arguments token other).1 := by
  cases runtime with
  | unavailable reason => rfl
  | ready engine =>
    cases rendered : Template.render template arguments with
    | error mismatch => simp only [Runtime.run, rendered]
    | ok code =>
      rw [run_ready engine kind rendered, run_ready engine kind rendered,
        Engine.call_steady steady code world other]

namespace Decoder
variable {decoder : Decoder} {memo : Memo} {kind : TokenKind} {token value : Text}

theorem decodeFresh_steady (steady : decoder.runtime.Steady) (kind : TokenKind) (token : Text)
    (world other : World) :
    (decoder.decodeFresh kind token world).1 = (decoder.decodeFresh kind token other).1 := by
  unfold decodeFresh
  cases decoder.prepared kind with
  | error error => rfl
  | ok prepared =>
    cases found : prepared.instructions with
    | some instructions => simp only [found]
    | none =>
      simp only [found]
      exact Runtime.run_steady steady _ _ _ _ _ _

-- The answer of a fresh decoder, in a world in which nothing has happened yet.
def answer (decoder : Decoder) (kind : TokenKind) (token : Text) : Except Failure Text :=
  (decoder.decode kind token {} {}).1

theorem decode_of_kept (kept : memo.get? kind token = some value) (world : World) :
    decoder.decode kind token memo world = (.ok value, memo, world) := by
  simp only [decode, Memo.getOrCall, kept]

-- A token that is not kept is decoded as by a decoder that keeps nothing at all.
theorem decode_of_unkept (unkept : memo.get? kind token = none) (world : World) :
    (decoder.decode kind token memo world).1 = (decoder.decode kind token {} world).1 ∧
      (decoder.decode kind token memo world).2.2 = (decoder.decode kind token {} world).2.2 := by
  have nothing : ({} : Memo).get? kind token = none := rfl
  simp only [decode, Memo.getOrCall, unkept, nothing]
  rcases decoder.decodeFresh kind token world with ⟨outcome, after⟩
  cases outcome <;> exact ⟨rfl, rfl⟩

theorem decode_empty (steady : decoder.runtime.Steady) (kind : TokenKind) (token : Text)
    (world : World) : (decoder.decode kind token {} world).1 = decoder.answer kind token := by
  have nothing : ({} : Memo).get? kind token = none := rfl
  have same := decodeFresh_steady steady kind token world {}
  simp only [answer, decode, Memo.getOrCall, nothing]
  rcases calledHere : decoder.decodeFresh kind token world with ⟨here, after⟩
  rcases calledThere : decoder.decodeFresh kind token {} with ⟨there, afterThere⟩
  rw [calledHere, calledThere] at same
  subst same
  cases here <;> rfl

-- Everything that is kept is the answer of a fresh decoder.
def Coherent (decoder : Decoder) (memo : Memo) : Prop :=
  ∀ kind token value, memo.get? kind token = some value → decoder.answer kind token = .ok value

theorem coherent_empty (decoder : Decoder) : decoder.Coherent {} := by
  intro kind token value kept
  cases kept

theorem Coherent.insert (coherent : decoder.Coherent memo)
    (answered : decoder.answer kind token = .ok value) :
    decoder.Coherent (memo.insert kind token value) := by
  intro otherKind other kept found
  by_cases same : (otherKind, other) = (kind, token)
  · obtain ⟨rfl, rfl⟩ := Prod.mk.inj same
    rw [Memo.get?_insert] at found
    cases found
    exact answered
  · rw [Memo.get?_insert_of_ne memo value same] at found
    exact coherent _ _ _ found

theorem Coherent.decode_fst (coherent : decoder.Coherent memo) (steady : decoder.runtime.Steady)
    (kind : TokenKind) (token : Text) (world : World) :
    (decoder.decode kind token memo world).1 = decoder.answer kind token := by
  cases kept : memo.get? kind token with
  | some value => rw [decode_of_kept kept, coherent _ _ _ kept]
  | none => rw [(decode_of_unkept kept world).1, decode_empty steady]

-- The memo grows only by a success of the very call, and that is the answer.
theorem Coherent.decode_memo (coherent : decoder.Coherent memo) (steady : decoder.runtime.Steady)
    (kind : TokenKind) (token : Text) (world : World) :
    decoder.Coherent (decoder.decode kind token memo world).2.1 := by
  have answered := coherent.decode_fst steady kind token world
  cases kept : memo.get? kind token with
  | some value => rwa [decode_of_kept kept]
  | none =>
    simp only [decode, Memo.getOrCall, kept] at answered ⊢
    rcases called : decoder.decodeFresh kind token world with ⟨outcome, after⟩
    rw [called] at answered
    cases outcome with
    | error failure => exact coherent
    | ok value => exact coherent.insert answered.symm

end Decoder
end StreamLinks
