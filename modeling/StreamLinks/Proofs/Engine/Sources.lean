import StreamLinks.Proofs.Challenge.Verified
import StreamLinks.Proofs.Decoder.Recall
import StreamLinks.Proofs.Json.Compact
/-!
The sources that are given to engines.

Tokens and scripts stand in them as JSON on one line, which reads as what was put in. Whatever they
hold, none of it is taken for a part of the source.
-/
namespace StreamLinks

namespace Decoder
variable {script : Text} {kind : TokenKind} {transform : Script.Transform}

-- The source that calls a transform: its code, and a line that prints the value for the token.
def callSource (transform : Script.Transform) (token : Text) : Text :=
  transform.code ++ "\nconsole.log(".toList ++ transform.name ++ ['('] ++ Json.quote token ++
    "));".toList

-- Only the template itself is searched for places to fill.
theorem render_callTemplate (code name literal : Text) :
    Template.render callTemplate [code, name, literal] =
      .ok (code ++ "\nconsole.log(".toList ++ name ++ ['('] ++ literal ++ "));".toList) := by
  have pieces : Text.splitOn Template.hole callTemplate =
    [[], "\nconsole.log(".toList, ['('], "));".toList] := by decide
  simp [Template.render, pieces, Template.weave]

theorem decodeFresh_codes (found : Script.transform? kind script = .ok transform)
    (unknown : Transform.classify transform.body script = none) (runtime : Runtime) (token : Text)
    (world : World) :
    ((ofScript script runtime).decodeFresh kind token world).2.codes =
      world.codes ++ if runtime.isAvailable then [callSource transform token] else [] := by
  have ready : (ofScript script runtime).prepared kind = .ok ⟨transform, none⟩ := by
    rw [prepared_eq]
    simp only [prepare, found, Except.map, unknown]
  simp only [decodeFresh, ready]
  cases runtime with
  | unavailable reason => exact (List.append_nil _).symm
  | ready engine =>
    obtain ⟨trace, after⟩ := Runtime.run_snd_of_render engine kind
      (render_callTemplate transform.code transform.name (Json.quote token)) token world
    exact congrArg World.codes after

theorem decode_codes (found : Script.transform? kind script = .ok transform)
    (unknown : Transform.classify transform.body script = none) (runtime : Runtime) (token : Text)
    (memo : Memo) (world : World) :
    ((ofScript script runtime).decode kind token memo world).2.2.codes =
      world.codes ++
        if runtime.isAvailable ∧ memo.get? kind token = none then [callSource transform token]
        else [] := by
  cases kept : memo.get? kind token with
  | some value => simp [decode_of_kept kept]
  | none =>
    rw [decode_snd_of_unkept kept, decodeFresh_codes found unknown]
    simp

end Decoder

namespace Solver

-- The texts of a list, each of them once and in the order of their first places.
structure FirstPlaces (texts firsts : List Text) : Prop where
  mem_iff (text : Text) : text ∈ firsts ↔ text ∈ texts
  ordered : firsts.Pairwise fun text next => texts.idxOf text < texts.idxOf next

theorem mem_distinct (text : Text) (texts : List Text) : text ∈ distinct texts ↔ text ∈ texts := by
  induction texts with
  | nil => rfl
  | cons first texts ih =>
    rw [distinct, List.mem_cons, List.mem_filter, ih, List.mem_cons, bne_iff_ne]
    by_cases same : text = first <;> simp [same]

theorem firstPlaces_distinct (texts : List Text) : FirstPlaces texts (distinct texts) := by
  refine ⟨fun text => mem_distinct text texts, ?_⟩
  induction texts with
  | nil => exact .nil
  | cons first texts ih =>
    have behind {text : Text} (other : text ∈ (distinct texts).filter (· != first)) :
        (first :: texts).idxOf text = texts.idxOf text + 1 := by
      have different : text ≠ first := by simpa using (List.mem_filter.mp other).2
      exact List.idxOf_cons_ne texts different.symm
    refine List.pairwise_cons.mpr ⟨?_, ?_⟩
    · intro next later
      rw [behind later, List.idxOf_cons_self]
      exact Nat.succ_pos _
    · refine (ih.filter _).imp_of_mem ?_
      intro text next here later before
      rw [behind here, behind later]
      exact Nat.succ_lt_succ before

theorem request_isPlain (throttle signature : List Text) (script : Text) :
    (request throttle signature script).IsPlain := by
  have plain (kind : TokenKind) (tokens : List Text) : (challenges kind tokens).IsPlain :=
    ⟨Json.arePlain_strings _, trivial, trivial⟩
  exact ⟨trivial, trivial, ⟨plain _ _, plain _ _, trivial⟩, trivial, trivial⟩

theorem trySolve_codes (solver : Solver) (throttle signature : List Text) (script : Text)
    (world : World) :
    (solver.trySolve throttle signature script world).2.codes =
      world.codes ++
        match solver.runtime, (solver.source.ready world).1 with
        | .ready _, .ok helpers => [batch helpers throttle signature script]
        | _, _ => [] := by
  have loaded := solver.source.ready_codes world
  cases engine : solver.runtime with
  | unavailable reason => simp [trySolve, engine, Runtime.isAvailable]
  | ready runner =>
    cases readied : solver.source.ready world with
    | mk outcome ready =>
      rw [readied] at loaded
      cases outcome with
      | error failure => simpa [trySolve, engine, Runtime.isAvailable, readied] using loaded
      | ok helpers =>
        rw [trySolve_snd_of_ready engine readied throttle signature script]
        exact congrArg (· ++ _) loaded

end Solver

-- What is put into a source reads back as it was, and it cannot end the line that it stands on.
theorem Engine.sources_as_data :
    (∀ (script : Text) (kind : TokenKind) (transform : Script.Transform),
      Script.transform? kind script = .ok transform →
      Transform.classify transform.body script = none →
      ∀ (runtime : Runtime) (token : Text) (memo : Memo) (world : World),
        let decoder := Decoder.ofScript script runtime
        let literal := Json.quote token
        Text.OneLine literal ∧ Json.read literal = some (.string token) ∧
          (decoder.decode kind token memo world).2.2.codes =
            world.codes ++
              if runtime.isAvailable ∧ memo.get? kind token = none then
                [transform.code ++ "\nconsole.log(".toList ++ transform.name ++ "(".toList ++ literal ++
                  "));".toList]
              else []) ∧
      ∀ (solver : Solver) (throttle signature : List Text) (script : Text) (world : World),
        let query := (Solver.request throttle signature script).compact
        let after := (solver.trySolve throttle signature script world).2
        Text.OneLine query ∧
          (∃ throttles signatures, Solver.FirstPlaces throttle throttles ∧
            Solver.FirstPlaces signature signatures ∧
            Json.read query = some (.object [
              ("output_preprocessed".toList, .bool true),
              ("player".toList, .string script),
              ("requests".toList, .array [
                .object [("challenges".toList, .array (throttles.map .string)),
                  ("type".toList, .string "n".toList)],
                .object [("challenges".toList, .array (signatures.map .string)),
                  ("type".toList, .string "sig".toList)]]),
              ("type".toList, .string "player".toList)])) ∧
          after.codes =
            world.codes ++
              match solver.runtime, (solver.source.ready world).1 with
              | .ready _, .ok helpers =>
                [helpers.opening ++ "\nconsole.log(JSON.stringify(jsc(".toList ++ query ++
                  ")));".toList]
              | _, _ => [] := by
  refine ⟨?_, ?_⟩
  · intro script kind transform found unknown runtime token memo world decoder literal
    exact ⟨Json.oneLine_quote token, (Json.reads_string token).read,
      Decoder.decode_codes found unknown runtime token memo world⟩
  · intro solver throttle signature script world query after
    refine ⟨Json.oneLine_compact _, ⟨_, _, Solver.firstPlaces_distinct throttle,
      Solver.firstPlaces_distinct signature, ?_⟩, solver.trySolve_codes throttle signature script world⟩
    exact Json.read_compact (Solver.request_isPlain throttle signature script)

-- Both the transform and the token hold a place to fill, and the token holds all that ends a literal.
def markedScript : Text :=
  "a.D&&(b=a.get(\"n\"))&&(b=Rt(b),a.set(\"n\",b));Rt=function(a)\x7breturn \"%s\"+a\x7d;".toList

def markedTransform : Script.Transform where
  name := "Rt".toList
  code := "var Rt=function(a)\x7breturn \"%s\"+a\x7d;".toList
  body := "return \"%s\"+a".toList

def markedToken : Text := "%s\"\\\n".toList

theorem Engine.sources_as_data_marked :
    Script.transform? .throttle markedScript = .ok markedTransform ∧
      Transform.classify markedTransform.body markedScript = none ∧
      ((Decoder.ofScript markedScript Decoder.counter).decode .throttle markedToken {} {}).2.2.codes =
        [markedTransform.code ++ "\nconsole.log(Rt(\"%s\\\"\\\\\\n\"));".toList] := by
  have found : Script.transform? .throttle markedScript = .ok markedTransform := by decide
  have unknown : Transform.classify markedTransform.body markedScript = none := by decide
  refine ⟨found, unknown, ?_⟩
  have data := Engine.sources_as_data.1 markedScript .throttle markedTransform found unknown
  rw [(data Decoder.counter markedToken {} {}).2.2]
  decide

end StreamLinks
