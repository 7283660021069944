import StreamLinks.Engine.Local
/-!
What a run leaves behind: one more source among those that were given to an engine, and whatever the
engine sent out. The cache and the loaded helpers stay as they are. What a run on this machine gives is
the last line of what was printed.
-/
namespace StreamLinks

theorem eq_ok_of_toOption {ε α : Type} {outcome : Except ε α} {value : α}
    (found : outcome.toOption = some value) : outcome = .ok value := by
  cases outcome with
  | error failure => cases found
  | ok other => exact congrArg Except.ok (Option.some.inj found)

theorem Engine.call_snd (engine : Engine) (code : Text) (world : World) :
    ∃ trace, (engine.call code world).2 = { world.ran code with trace } := ⟨_, rfl⟩

namespace Runtime

-- A template that fits is run as it was filled. What is printed is checked when the run is over.
theorem run_snd_call (engine : Engine) (kind : TokenKind) {template code : Text}
    {arguments : List Text} (rendered : Template.render template arguments = .ok code) (token : Text)
    (world : World) :
    ((ready engine).run kind template arguments token world).2 = (engine.call code world).2 := by
  simp only [run, rendered]
  rcases engine.call code world with ⟨outcome, later⟩
  cases outcome with
  | error failure => rfl
  | ok output =>
    dsimp only
    split <;> rfl

theorem run_snd_of_render (engine : Engine) (kind : TokenKind) {template code : Text}
    {arguments : List Text} (rendered : Template.render template arguments = .ok code) (token : Text)
    (world : World) :
    ∃ trace, ((ready engine).run kind template arguments token world).2 =
      { world.ran code with trace } := by
  rw [run_snd_call engine kind rendered]
  exact engine.call_snd code world

-- Nothing is run without an engine, or with a template that does not fit.
theorem run_snd (runtime : Runtime) (kind : TokenKind) (template : Text) (arguments : List Text)
    (token : Text) (world : World) :
    (runtime.run kind template arguments token world).2 = world ∨
      ∃ code trace, (runtime.run kind template arguments token world).2 =
        { world.ran code with trace } := by
  cases runtime with
  | unavailable reason => exact .inl rfl
  | ready engine =>
    cases rendered : Template.render template arguments with
    | error mismatch =>
      left
      simp only [run, rendered]
    | ok code => exact .inr ⟨code, run_snd_of_render engine kind rendered token world⟩

-- What is printed is checked when the run is over.
theorem runPrepared_snd (engine : Engine) (code : Text) (world : World) :
    ((ready engine).runPrepared code world).2 = (engine.call code world).2 := by
  simp only [runPrepared]
  rcases engine.call code world with ⟨outcome, later⟩
  cases outcome with
  | error failure => rfl
  | ok output =>
    dsimp only
    split <;> rfl

end Runtime

namespace LocalEngine
variable {engine : LocalEngine} {surroundings : Surroundings} {code line : Text} {trace : Trace}

theorem printed_of_execute (done : (engine.execute surroundings code trace).1 = .ok line) :
    ∃ printed, engine.program.run trace.runs ⟨engine.arguments, code⟩ = .exited 0 printed ∧
      line = Text.lastLine printed := by
  unfold execute at done
  split at done
  · cases done
  · dsimp only at done
    unfold output at done
    split at done
    · next printed ended =>
      cases done
      exact ⟨printed, ended, rfl⟩
    all_goals cases done

end LocalEngine

end StreamLinks
