import StreamLinks.Proofs.Challenge.Reply
import StreamLinks.Proofs.Stream.Sharing
/-!
Decoding in one batch.

The answers of a batch are put into the memo before any stream is resolved. When all of them are what a
fresh decoder answers, or when there are none, the memo stays coherent, and so the links are those that
are made without a batch.
-/
namespace StreamLinks

def Solved.answers (solved : Solved) : TokenKind → Answers
  | .signature => solved.signature
  | .throttle => solved.throttle

namespace Resolver
variable {decoder : Decoder} {memo : Memo}

theorem remember_coherent {kind : TokenKind} {answers : Answers} (coherent : decoder.Coherent memo)
    (right : ∀ pair ∈ answers, decoder.answer kind pair.1 = .ok pair.2) :
    decoder.Coherent (remember kind answers memo) := by
  induction answers generalizing memo with
  | nil => exact coherent
  | cons pair answers ih =>
    exact ih (coherent.insert (right pair (List.mem_cons_self ..)))
      fun other present => right other (List.mem_cons_of_mem _ present)

-- What the answers leave out stands in the memo as before.
theorem get?_remember {kind other : TokenKind} {answers : Answers} {token : Text}
    (left : other = kind → ∀ pair ∈ answers, pair.1 ≠ token) :
    (remember kind answers memo).get? other token = memo.get? other token := by
  induction answers generalizing memo with
  | nil => rfl
  | cons pair answers ih =>
    have different : (other, token) ≠ (kind, pair.1) := by
      intro same
      obtain ⟨sameKind, sameToken⟩ := Prod.mk.inj same
      exact left sameKind pair (List.mem_cons_self ..) sameToken.symm
    have rest : (remember kind answers (memo.insert kind pair.1 pair.2)).get? other token =
        (memo.insert kind pair.1 pair.2).get? other token :=
      ih fun sameKind other present => left sameKind other (List.mem_cons_of_mem _ present)
    exact rest.trans (Memo.get?_insert_of_ne memo pair.2 different)

-- What the batch for these sources answers: nothing if it fails, or if there is nothing to ask.
def batchOf (solver : Solver) (decoder : Decoder) (sources : List Source) (world : World) :
    Option Solved :=
  let tokens := sources.filterMap Source.token
  let signatures := sources.filterMap Source.signature
  if tokens.isEmpty && signatures.isEmpty then none
  else (solver.solve tokens signatures decoder.script world).1

-- The answers of a batch for which the engine prints a reply.
theorem batchOf_of_replies {solver : Solver} {engine : Engine} {sources : List Source} {world : World}
    {helpers : Helpers} {tokens signatures : List Text} {line : Text} {throttle signature : List (Text × Json.Value)}
    {others : List Json.Value} (given : sources.filterMap Source.token = tokens)
    (signed : sources.filterMap Source.signature = signatures)
    (something : (tokens.isEmpty && signatures.isEmpty) = false) (ready : solver.runtime = .ready engine)
    (kept : world.helpers = some helpers)
    (printed : (engine.execute world.codes (Solver.batch helpers tokens signatures decoder.script)
      world.trace).1 = .ok line)
    (replies : Solved.Replies line throttle signature others) :
    batchOf solver decoder sources world =
      some ⟨Solved.textsByName throttle, Solved.textsByName signature⟩ := by
  have readied : solver.source.ready world = (.ok helpers, world) := by
    simp only [HelperSource.ready, kept]
  rw [batchOf, given, signed, something, if_neg Bool.false_ne_true, Solver.solve_fst,
    Solver.trySolve_of_replies ready readied printed replies]
  rfl

theorem solveAll_fst (solver : Solver) (decoder : Decoder) (sources : List Source) (memo : Memo)
    (world : World) :
    (solveAll solver decoder sources memo world).1 =
      match batchOf solver decoder sources world with
      | none => memo
      | some solved =>
        remember .signature solved.signature (remember .throttle solved.throttle memo) := by
  unfold solveAll batchOf
  dsimp only
  split
  · rfl
  · split
    · rename_i after ran
      rw [ran]
    · rename_i solved after ran
      rw [ran]

theorem solveAll_coherent {solver : Solver} {sources : List Source} {world : World}
    (coherent : decoder.Coherent memo)
    (right : ∀ solved, batchOf solver decoder sources world = some solved →
      ∀ kind, ∀ pair ∈ solved.answers kind, decoder.answer kind pair.1 = .ok pair.2) :
    decoder.Coherent (solveAll solver decoder sources memo world).1 := by
  rw [solveAll_fst]
  cases ran : batchOf solver decoder sources world with
  | none => exact coherent
  | some solved =>
    exact remember_coherent (remember_coherent coherent (right solved ran .throttle))
      (right solved ran .signature)

theorem get?_solveAll {solver : Solver} {sources : List Source} {world : World} {kind : TokenKind}
    {token : Text}
    (left : ∀ solved, batchOf solver decoder sources world = some solved →
      ∀ pair ∈ solved.answers kind, pair.1 ≠ token) :
    (solveAll solver decoder sources memo world).1.get? kind token = memo.get? kind token := by
  rw [solveAll_fst]
  cases ran : batchOf solver decoder sources world with
  | none => rfl
  | some solved =>
    have leftHere := left solved ran
    refine (get?_remember ?_).trans (get?_remember ?_)
    · rintro rfl
      exact leftHere
    · rintro rfl
      exact leftHere

theorem resolve_fst_of_solver (solver : Solver) (playerUrl : Text) (steady : decoder.runtime.Steady)
    (coherent : decoder.Coherent memo) (descriptors : List Descriptor) (world : World)
    (right : ∀ solved, batchOf solver decoder (descriptors.map .ofDescriptor) world = some solved →
      ∀ kind, ∀ pair ∈ solved.answers kind, decoder.answer kind pair.1 = .ok pair.2) :
    let resolver : Resolver := ⟨some decoder, some solver, playerUrl⟩
    (resolver.resolve descriptors memo world).1 = descriptors.map resolver.linkOf := by
  intro resolver
  simp only [resolve, resolver]
  split
  · exact (resolveEach_coherent (steady_of_decoder steady) (coherent_of_decoder coherent)
      descriptors world).1
  · exact (resolveEach_coherent (steady_of_decoder steady)
      (coherent_of_decoder (solveAll_coherent coherent right)) descriptors _).1

-- A batch may leave out tokens, answer others that nobody asked for, or fail at any point.
theorem resolve_batch_eq (solver : Solver) (playerUrl : Text) (steady : decoder.runtime.Steady)
    (descriptors : List Descriptor) (world unbatched fresh : World)
    (right : ∀ solved, batchOf solver decoder (descriptors.map .ofDescriptor) world = some solved →
      ∀ kind, ∀ pair ∈ solved.answers kind,
        (decoder.decode kind pair.1 {} fresh).1 = .ok pair.2) :
    (resolve ⟨some decoder, some solver, playerUrl⟩ descriptors {} world).1 =
        (resolve ⟨some decoder, none, playerUrl⟩ descriptors {} unbatched).1 ∧
      ∀ kind token later,
        (∀ solved, batchOf solver decoder (descriptors.map .ofDescriptor) world = some solved →
          ∀ pair ∈ solved.answers kind, pair.1 ≠ token) →
        let (memo, _) := solveAll solver decoder (descriptors.map .ofDescriptor) {} world
        (decoder.decode kind token memo later).1 = (decoder.decode kind token {} later).1 ∧
          (decoder.decode kind token memo later).2.2 = (decoder.decode kind token {} later).2.2 := by
  refine ⟨?_, ?_⟩
  · rw [resolve_fst_of_solver solver playerUrl steady decoder.coherent_empty descriptors world]
    · rw [resolve_of_no_solver rfl]
      have unsolved := resolveEach_coherent (steady_of_decoder steady)
        (coherent_empty ⟨some decoder, none, playerUrl⟩) descriptors unbatched
      exact unsolved.1.symm
    · intro solved ran kind pair present
      rw [← Decoder.decode_empty steady kind pair.1 fresh]
      exact right solved ran kind pair present
  · intro kind token later left
    exact Decoder.decode_of_unkept (get?_solveAll left) later

-- One token is answered by the batch, another one is left to a run of its own.
theorem resolve_batch_eq_partial :
    let reply := "\x7b\"type\":\"result\",\"responses\":[".toList ++
      "\x7b\"type\":\"result\",\"data\":\x7b\"t\":\"T\"\x7d\x7d,".toList ++
      "\x7b\"type\":\"result\",\"data\":\x7b\x7d\x7d]\x7d".toList
    let engine := Engine.scripted "worker".toList fun _ code =>
      .ok (if Text.contains "jsc(".toList code then reply else "T".toList)
    let script := "a.D&&(b=a.get(\"n\"))&&(b=Rt(b),a.set(\"n\",b));Rt=function(a)\x7breturn a+1\x7d;".toList
    let decoder := Decoder.ofScript script (.ready engine)
    let solver : Solver := ⟨⟨fun _ _ => .unreachable [], [], [], []⟩, .ready engine⟩
    let world : World := { helpers := some ⟨"var lib;".toList, "var jsc;".toList⟩ }
    let streams : List Descriptor :=
      [{ itag := 18, url := some "https://h/v?a=1&n=t&b=2".toList },
        { itag := 22, url := some "https://h/v?a=1&n=u&b=2".toList }]
    (decoder.runtime.Steady ∧
        batchOf solver decoder (streams.map .ofDescriptor) world =
          some ⟨[("t".toList, "T".toList)], []⟩ ∧
        (decoder.decode .throttle "t".toList {} {}).1 = .ok "T".toList) ∧
      (resolve ⟨some decoder, some solver, []⟩ streams {} world).1 =
        (resolve ⟨some decoder, none, []⟩ streams {} {}).1 := by
  intro reply engine script decoder solver world streams
  have steady : decoder.runtime.Steady := Engine.scripted_steady "worker".toList fun code =>
    .ok (if Text.contains "jsc(".toList code then reply else "T".toList)
  have batch : batchOf solver decoder (streams.map .ofDescriptor) world =
      some ⟨[("t".toList, "T".toList)], []⟩ := by
    have asked : Text.contains "jsc(".toList (Solver.batch ⟨"var lib;".toList, "var jsc;".toList⟩
        ["t".toList, "u".toList] [] script) = true := by decide
    have written : reply = (Solved.answering "t".toList "T".toList).compact := by decide
    have printed : (engine.execute world.codes (Solver.batch ⟨"var lib;".toList, "var jsc;".toList⟩
        ["t".toList, "u".toList] [] decoder.script) world.trace).1 =
          .ok (Solved.answering "t".toList "T".toList).compact := by
      rw [← written]
      exact congrArg Except.ok (if_pos asked)
    exact batchOf_of_replies (by decide) (by decide) rfl rfl rfl printed (Solved.replies_answering _ _)
  have decoded : (decoder.decode .throttle "t".toList {} {}).1 = .ok "T".toList :=
    eq_ok_of_toOption (by decide)
  refine ⟨⟨steady, batch, decoded⟩, (resolve_batch_eq solver [] steady streams world {} {} ?_).1⟩
  intro solved ran kind pair present
  cases batch.symm.trans ran
  cases kind with
  | signature => cases present
  | throttle =>
    cases List.mem_singleton.mp present
    exact decoded

end Resolver
end StreamLinks
