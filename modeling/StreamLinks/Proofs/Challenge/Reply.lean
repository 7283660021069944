import StreamLinks.Challenge.Solver
import StreamLinks.Proofs.Challenge.Parts
import StreamLinks.Proofs.Engine.Probing
import StreamLinks.Proofs.Json.Compact
import StreamLinks.Proofs.Traversal
/-!
Which replies of the batch solver are accepted, and the answers that are taken from them.

Of the responses in a reply the first two are taken. The others have to be responses and are not looked
at further.
-/
namespace StreamLinks

namespace Solved
variable {reply line : Text} {token : Text} {entries throttle signature : List (Text × Json.Value)}
  {others : List Json.Value} {answers : Answers} {solved : Solved}

-- The answers in an object: for every token the last value that it has there, if that is a text.
structure Told (entries : List (Text × Json.Value)) (answers : Answers) : Prop where
  once : (answers.map (·.1)).Nodup
  told : ∀ token, answers.lookup token = (entries.reverse.lookup token).bind Json.text?

theorem textsByName_cons (name : Text) (value : Json.Value) (entries : List (Text × Json.Value)) :
    textsByName ((name, value) :: entries) =
      if entries.any fun (other, _) => other == name then textsByName entries
      else ((Json.text? value).map (name, ·)).toList ++ textsByName entries := by
  cases value <;> rfl

theorem reverse_lookup_cons (name : Text) (value : Json.Value) (entries : List (Text × Json.Value))
    (token : Text) : ((name, value) :: entries).reverse.lookup token =
      (entries.reverse.lookup token).or (if token = name then some value else none) := by
  rw [List.reverse_cons, List.lookup_append, List.lookup_cons, List.lookup_nil]
  by_cases same : token = name
  · simp [same]
  · rw [beq_false_of_ne same, if_neg same]

theorem reverse_lookup_eq_none {name : Text} : entries.reverse.lookup name = none ↔
    (entries.any fun (other, _) => other == name) = false := by
  rw [List.lookup_eq_none_iff, List.any_eq_false]
  simp only [List.mem_reverse, bne_iff_ne, beq_iff_eq, ne_comm, ne_eq]

theorem lookup_textsByName (entries : List (Text × Json.Value)) (token : Text) :
    (textsByName entries).lookup token = (entries.reverse.lookup token).bind Json.text? := by
  induction entries with
  | nil => rfl
  | cons entry entries ih =>
    obtain ⟨name, value⟩ := entry
    rw [textsByName_cons, reverse_lookup_cons]
    split
    · next later =>
      rw [ih]
      by_cases same : token = name
      · subst same
        have found : entries.reverse.lookup token ≠ none := by
          rw [ne_eq, reverse_lookup_eq_none, later]
          exact Bool.noConfusion
        obtain ⟨value, found⟩ := Option.ne_none_iff_exists'.mp found
        rw [found]
        rfl
      · rw [if_neg same, Option.or_none]
    · next last =>
      rw [List.lookup_append, ih]
      by_cases same : token = name
      · subst same
        rw [reverse_lookup_eq_none.mpr (Bool.eq_false_iff.mpr last), if_pos rfl, Option.none_or,
          Option.bind_some]
        cases Json.text? value <;> simp
      · rw [if_neg same, Option.or_none]
        cases Json.text? value <;> simp [List.lookup_cons, beq_false_of_ne same]

theorem told_textsByName (entries : List (Text × Json.Value)) : Told entries (textsByName entries) := by
  refine ⟨?_, lookup_textsByName entries⟩
  induction entries with
  | nil => exact List.nodup_nil
  | cons entry entries ih =>
    obtain ⟨name, value⟩ := entry
    rw [textsByName_cons]
    split
    · exact ih
    · next last =>
      have absent : name ∉ (textsByName entries).map (·.1) := by
        have unfound := lookup_textsByName entries name
        rw [reverse_lookup_eq_none.mpr (Bool.eq_false_iff.mpr last), Option.bind_none,
          List.lookup_eq_none_iff] at unfound
        intro present
        obtain ⟨entry, held, same⟩ := List.mem_map.mp present
        simpa [same] using unfound entry held
      cases Json.text? value with
      | none => exact ih
      | some text => exact List.nodup_cons.mpr ⟨absent, ih⟩

-- What a reply is read as before the first two of its parts are taken.
def parts? (reply : Text) : Option (Part (List (Part Answers))) := do
  let value ← Json.read reply
  if value.isKept room then
    Part.ofJson? false "responses"
      (Json.listOf? (Part.ofJson? true "data" answersOfJson?)) value
  else none

theorem ofReply_eq_ok : ofReply reply = .ok solved ↔
    ∃ others, parts? reply = some (.result (.result solved.throttle :: .result solved.signature :: others)) := by
  have read : (do
      let value ← Json.read reply
      if value.isKept room then
        Part.ofJson? false "responses"
          (Json.listOf? (Part.ofJson? true "data" answersOfJson?)) value
      else none) = parts? reply := rfl
  unfold ofReply
  dsimp only
  rw [read]
  cases parts? reply with
  | none => exact iff_of_false (fun same => by cases same) (by simp)
  | some part =>
    cases part with
    | error text => exact iff_of_false (fun same => by cases same) (by simp)
    | result parts =>
      cases parts with
      | nil => exact iff_of_false (fun same => by cases same) (by simp)
      | cons first parts =>
        cases first with
        | error text => exact iff_of_false (fun same => by cases same) (by simp)
        | result throttle =>
          cases parts with
          | nil => exact iff_of_false (fun same => by cases same) (by simp)
          | cons second others =>
            cases second with
            | error text => exact iff_of_false (fun same => by cases same) (by simp)
            | result signature =>
              constructor
              · intro same
                cases same
                exact ⟨others, rfl⟩
              · rintro ⟨_, same⟩
                cases same
                rfl

theorem answersOfJson?_eq_some {content : Json.Value} : answersOfJson? content = some answers ↔
    ∃ entries, content = .object entries ∧ answers = textsByName entries := by
  cases content with
  | object entries =>
    have whole : Json.mapOf? some (.object entries) = some entries :=
      mapM_eq_some_iff.mpr (List.forall₂_same.mpr fun _ _ => rfl)
    rw [answersOfJson?, whole]
    simp [eq_comm]
  | _ => simp [answersOfJson?, Json.mapOf?]

theorem listOf?_eq_some {α : Type} {item : Json.Value → Option α} {content : Json.Value} {found : List α} :
    Json.listOf? item content = some found ↔ ∃ items, content = .array items ∧
      List.Forall₂ (fun value x => item value = some x) items found := by
  cases content <;> simp [Json.listOf?, mapM_eq_some_iff]

-- A response of the batch solver.
inductive Response : Json.Value → Prop where
  | result {entries : List (Text × Json.Value)} {value : Json.Value}
      (written : Part.IsResult true "data" (.object entries) value) : Response value
  | error {text : Option Text} {value : Json.Value} (written : Part.IsError true text value) :
      Response value

-- A document with at least two responses of which the first two are results.
inductive Replies (line : Text) (throttle signature : List (Text × Json.Value))
    (others : List Json.Value) : Prop where
  | document {document first second : Json.Value} (read : Json.read line = some document)
      (kept : document.isKept room = true)
      (whole : Part.IsResult false "responses" (.array (first :: second :: others)) document)
      (first : Part.IsResult true "data" (.object throttle) first)
      (second : Part.IsResult true "data" (.object signature) second)
      (others : ∀ other ∈ others, Response other)

theorem ofJson?_eq_answers {value : Json.Value} :
    Part.ofJson? true "data" answersOfJson? value = some (.result answers) ↔
      ∃ entries, Part.IsResult true "data" (.object entries) value ∧ answers = textsByName entries := by
  have different : "data".toList ≠ Part.tag := by decide
  simp only [Part.ofJson?_eq_result different, answersOfJson?_eq_some]
  constructor
  · rintro ⟨_, written, entries, rfl, same⟩
    exact ⟨entries, written, same⟩
  · rintro ⟨entries, written, same⟩
    exact ⟨_, written, entries, rfl, same⟩

theorem ofJson?_response {value : Json.Value} :
    (∃ part, Part.ofJson? true "data" answersOfJson? value = some part) ↔ Response value := by
  constructor
  · rintro ⟨answers | text, made⟩
    · obtain ⟨entries, written, -⟩ := ofJson?_eq_answers.mp made
      exact .result written
    · exact .error (Part.ofJson?_eq_error.mp made)
  · intro response
    cases response with
    | result written => exact ⟨_, ofJson?_eq_answers.mpr ⟨_, written, rfl⟩⟩
    | error written => exact ⟨_, Part.ofJson?_eq_error.mpr written⟩

theorem parts?_eq_result {parts : List (Part Answers)} : parts? line = some (.result parts) ↔
    ∃ document items, Json.read line = some document ∧ document.isKept room = true ∧
      Part.IsResult false "responses" (.array items) document ∧
      List.Forall₂ (fun value part => Part.ofJson? true "data" answersOfJson? value = some part)
        items parts := by
  have different : "responses".toList ≠ Part.tag := by decide
  constructor
  · intro made
    obtain ⟨document, read, made⟩ := Option.bind_eq_some_iff.mp made
    split at made
    · next kept =>
      obtain ⟨content, written, listed⟩ := (Part.ofJson?_eq_result different).mp made
      obtain ⟨items, rfl, each⟩ := listOf?_eq_some.mp listed
      exact ⟨document, items, read, kept, written, each⟩
    · cases made
  · rintro ⟨document, items, read, kept, written, each⟩
    refine Option.bind_eq_some_iff.mpr ⟨document, read, ?_⟩
    rw [if_pos kept]
    exact (Part.ofJson?_eq_result different).mpr ⟨_, written, listOf?_eq_some.mpr ⟨items, rfl, each⟩⟩

theorem ofReply_eq_ok_iff : ofReply line = .ok solved ↔
    ∃ throttle signature others, Replies line throttle signature others ∧
      solved = ⟨textsByName throttle, textsByName signature⟩ := by
  rw [ofReply_eq_ok]
  constructor
  · rintro ⟨parts, made⟩
    obtain ⟨document, items, read, kept, whole, each⟩ := parts?_eq_result.mp made
    obtain _ | ⟨first, _ | ⟨second, each⟩⟩ := each
    obtain ⟨throttle, first, fromFirst⟩ := ofJson?_eq_answers.mp first
    obtain ⟨signature, second, fromSecond⟩ := ofJson?_eq_answers.mp second
    refine ⟨throttle, signature, _, .document read kept whole first second ?_, ?_⟩
    · intro other present
      exact ofJson?_response.mp (exists_mapM_iff.mp ⟨parts, mapM_eq_some_iff.mpr each⟩ other present)
    · rw [← fromFirst, ← fromSecond]
  · rintro ⟨throttle, signature, others, ⟨read, kept, whole, first, second, others⟩, rfl⟩
    obtain ⟨parts, each⟩ := exists_mapM_iff.mpr fun other present =>
      ofJson?_response.mpr (others other present)
    have first := ofJson?_eq_answers.mpr ⟨throttle, first, rfl⟩
    have second := ofJson?_eq_answers.mpr ⟨signature, second, rfl⟩
    exact ⟨parts, parts?_eq_result.mpr ⟨_, _, read, kept, whole,
      .cons first (.cons second (mapM_eq_some_iff.mp each))⟩⟩

-- A line is read in one way only.
theorem Replies.unique {throttle' signature' : List (Text × Json.Value)} {others' : List Json.Value}
    (replies : Replies line throttle signature others) (replies' : Replies line throttle' signature' others') :
    throttle = throttle' ∧ signature = signature' ∧ others = others' := by
  obtain ⟨read, -, whole, first, second, -⟩ := replies
  obtain ⟨read', -, whole', first', second', -⟩ := replies'
  cases read.symm.trans read'
  cases whole.content_unique whole'
  cases first.content_unique first'
  cases second.content_unique second'
  exact ⟨rfl, rfl, rfl⟩

-- A third response is all that stands between a reply and one with exactly two.
theorem replies_two_iff :
    ((∃ throttle signature others, Replies line throttle signature others) ↔
        ∃ throttle signature, Replies line throttle signature []) ↔
      ¬ ∃ throttle signature third others, Replies line throttle signature (third :: others) := by
  constructor
  · rintro two ⟨throttle, signature, third, others, replies⟩
    obtain ⟨throttle', signature', replies'⟩ := two.mp ⟨throttle, signature, _, replies⟩
    cases (replies.unique replies').2.2
  · intro alone
    constructor
    · rintro ⟨throttle, signature, _ | ⟨third, others⟩, replies⟩
      · exact ⟨throttle, signature, replies⟩
      · exact absurd ⟨throttle, signature, third, others, replies⟩ alone
    · rintro ⟨throttle, signature, replies⟩
      exact ⟨throttle, signature, [], replies⟩

-- A reply that answers one throttle token.
def answering (token value : Text) : Json.Value :=
  .object [("type".toList, .string "result".toList), ("responses".toList, .array [
    .object [("type".toList, .string "result".toList), ("data".toList, .object [(token, .string value)])],
    .object [("type".toList, .string "result".toList), ("data".toList, .object [])]])]

theorem replies_answering (token value : Text) :
    Replies (answering token value).compact [(token, .string value)] [] [] := by
  have plain : (answering token value).IsPlain := by
    simp [answering, Json.Value.IsPlain, Json.arePlain, Json.membersPlain]
  exact .document (Json.read_compact plain) rfl (.object rfl (.inl rfl) rfl) (.object rfl (.inl rfl) rfl)
    (.object rfl (.inl rfl) rfl) nofun

end Solved

namespace Solver
variable {solver : Solver} {engine : Engine} {world loaded : World} {helpers : Helpers}
  {throttle signature : List Text} {script line : Text}

theorem solve_fst (solver : Solver) (throttle signature : List Text) (script : Text) (world : World) :
    (solver.solve throttle signature script world).1 =
      (solver.trySolve throttle signature script world).1.toOption := by
  unfold solve
  split
  · next succeeded => rw [succeeded]; rfl
  · next failed => rw [failed]; rfl

theorem not_replies_nil {given given' : List (Text × Json.Value)} {others : List Json.Value} :
    ¬ Solved.Replies [] given given' others := by
  rintro ⟨read, -⟩
  cases read

section printed
variable (ready : solver.runtime = .ready engine)
  (readied : solver.source.ready world = (.ok helpers, loaded))
  (printed : (engine.execute loaded.codes (batch helpers throttle signature script) loaded.trace).1 =
    .ok line)
include ready readied printed

theorem trySolve_of_printed :
    (solver.trySolve throttle signature script world).1 =
      if line = [] then .error (ExecutionError.silent engine.describe).failure
      else (Solved.ofReply line).mapError (·.failure) := by
  obtain ⟨after, called⟩ : ∃ after,
      engine.call (batch helpers throttle signature script) loaded = (.ok line, after) :=
    ⟨_, Prod.ext printed rfl⟩
  simp only [trySolve, ready, Runtime.isAvailable, if_true, readied, Runtime.runPrepared, called]
  by_cases silent : line = []
  · simp only [silent, if_true]
  · simp only [silent, if_false]
    cases Solved.ofReply line <;> rfl

theorem trySolve_of_replies {n sig : List (Text × Json.Value)} {others : List Json.Value}
    (replies : Solved.Replies line n sig others) :
    (solver.trySolve throttle signature script world).1 =
      .ok ⟨Solved.textsByName n, Solved.textsByName sig⟩ := by
  have written : line ≠ [] := by
    rintro rfl
    exact not_replies_nil replies
  have read := Solved.ofReply_eq_ok_iff.mpr ⟨n, sig, others, replies, rfl⟩
  rw [trySolve_of_printed ready readied printed, if_neg written, read]
  rfl

theorem trySolve_of_not_replies
    (unread : ¬ ∃ n sig others, Solved.Replies line n sig others) :
    ∃ message, (solver.trySolve throttle signature script world).1 = .error (.own .execution message) := by
  rw [trySolve_of_printed ready readied printed]
  split
  · exact ⟨_, rfl⟩
  · cases read : Solved.ofReply line with
    | error error => exact ⟨_, rfl⟩
    | ok solved =>
      obtain ⟨n, sig, others, replies, -⟩ := Solved.ofReply_eq_ok_iff.mp read
      exact absurd ⟨n, sig, others, replies⟩ unread

theorem trySolve_eq_ok_iff :
    (∃ solved, (solver.trySolve throttle signature script world).1 = .ok solved) ↔
      ∃ n sig others, Solved.Replies line n sig others := by
  constructor
  · rintro ⟨solved, succeeded⟩
    by_contra unread
    obtain ⟨message, failed⟩ := trySolve_of_not_replies ready readied printed unread
    cases succeeded.symm.trans failed
  · rintro ⟨n, sig, others, replies⟩
    exact ⟨_, trySolve_of_replies ready readied printed replies⟩

end printed

-- Every reply with two results at its head is accepted, whatever stands behind them; all else that an
-- engine prints is an execution failure. So the responses are exactly two unless there is a third.
theorem accepts_two_iff (ready : solver.runtime = .ready engine) (throttle signature : List Text)
    (script : Text) (readied : solver.source.ready world = (.ok helpers, loaded))
    (printed : (engine.execute loaded.codes (batch helpers throttle signature script) loaded.trace).1 =
      .ok line) :
    let outcome := (solver.trySolve throttle signature script world).1
    let kept := (solver.solve throttle signature script world).1
    (((∃ solved, outcome = .ok solved) ↔ ∃ n sig, Solved.Replies line n sig []) ↔
      ¬ ∃ n sig third others, Solved.Replies line n sig (third :: others)) ∧
    (∀ n sig others, Solved.Replies line n sig others →
      ∃ solved, outcome = .ok solved ∧ kept = some solved ∧
        Solved.Told n solved.throttle ∧ Solved.Told sig solved.signature) ∧
    ((¬ ∃ n sig others, Solved.Replies line n sig others) →
      (∃ message, outcome = .error (.own .execution message)) ∧ kept = none) ∧
    (∀ program surroundings, engine = LocalEngine.engine program surroundings →
      ∃ text, program.program.run loaded.trace.runs
          ⟨program.arguments, batch helpers throttle signature script⟩ = .exited 0 text ∧
        line = Text.lastLine text) ∧
    ∀ worker server, engine = Worker.engine worker server →
      ∃ earlier url answer text,
        server earlier (.post url (batch helpers throttle signature script) worker.compressed
            (Worker.token worker.key)) = .answer answer ∧
          Http.isSuccess answer.status = true ∧ Worker.bodyOf answer = .ok text ∧
          line = Text.lastLine text := by
  intro outcome kept
  have same : kept = outcome.toOption := solver.solve_fst ..
  refine ⟨?_, ?_, ?_, ?_, ?_⟩
  · exact (iff_congr (trySolve_eq_ok_iff ready readied printed) Iff.rfl).trans Solved.replies_two_iff
  · intro n sig others replies
    have accepted : outcome = .ok ⟨Solved.textsByName n, Solved.textsByName sig⟩ :=
      trySolve_of_replies ready readied printed replies
    refine ⟨_, accepted, ?_, Solved.told_textsByName n, Solved.told_textsByName sig⟩
    rw [same, accepted]
    rfl
  · intro unread
    obtain ⟨message, failed⟩ : ∃ message, outcome = .error (.own .execution message) :=
      trySolve_of_not_replies ready readied printed unread
    refine ⟨⟨message, failed⟩, ?_⟩
    rw [same, failed]
    rfl
  · rintro program surroundings rfl
    exact LocalEngine.printed_of_execute printed
  · rintro worker server rfl
    exact Worker.printed_of_execute printed

-- An engine that prints one line only, a solver with it, and the helpers that it has.
def printer (line : Text) : Engine := .scripted "e".toList fun _ _ => .ok line

def printing (line : Text) : Solver := ⟨⟨fun _ _ => .unreachable [], [], [], []⟩, .ready (printer line)⟩

def prepared : World where
  helpers := some ⟨[], []⟩

theorem ready_printing (line : Text) : (printing line).runtime = .ready (printer line) := rfl

theorem ready_prepared (line : Text) :
    (printing line).source.ready prepared = (.ok ⟨[], []⟩, prepared) := rfl

-- A token comes twice in the first data and a number stands behind it. The second response is an array.
def repeated : Json.Value :=
  .object [("type".toList, .string "result".toList), ("responses".toList, .array [
    .object [("type".toList, .string "result".toList), ("data".toList, .object [
      ("a".toList, .string "x".toList), ("a".toList, .string "y".toList),
      ("b".toList, .number (.natural 1))])],
    .array [.string "result".toList, .object [("c".toList, .string "z".toList)]]])]

theorem accepts_two_iff_repeated :
    (printing repeated.compact).source.ready prepared = (.ok ⟨[], []⟩, prepared) ∧
      (∃ n sig, Solved.Replies repeated.compact n sig []) ∧
      ∃ solved, ((printing repeated.compact).solve [] [] [] prepared).1 = some solved ∧
        solved.throttle.lookup "a".toList = some "y".toList ∧
        solved.throttle.lookup "b".toList = none ∧
        solved.signature.lookup "c".toList = some "z".toList := by
  have plain : repeated.IsPlain := by
    simp [repeated, Json.Value.IsPlain, Json.arePlain, Json.membersPlain, Json.wordBound]
  have replies : Solved.Replies repeated.compact
      [("a".toList, .string "x".toList), ("a".toList, .string "y".toList),
        ("b".toList, .number (.natural 1))] [("c".toList, .string "z".toList)] [] :=
    .document (Json.read_compact plain) rfl (.object rfl (.inl rfl) rfl) (.object rfl (.inl rfl) rfl)
      (.array (.inl rfl)) nofun
  obtain ⟨-, accepted, -⟩ := accepts_two_iff (ready_printing repeated.compact) [] [] []
    (ready_prepared repeated.compact) rfl
  obtain ⟨solved, -, kept, throttle, signature⟩ := accepted _ _ _ replies
  exact ⟨rfl, ⟨_, _, replies⟩, solved, kept, throttle.told _, throttle.told _, signature.told _⟩

-- An error in the third place goes unseen.
def failing : Json.Value :=
  .object [("type".toList, .string "result".toList), ("responses".toList, .array [
    .object [("type".toList, .string "result".toList), ("data".toList, .object [])],
    .object [("type".toList, .string "result".toList), ("data".toList, .object [])],
    .object [("type".toList, .string "error".toList), ("error".toList, .string "boom".toList)]])]

theorem accepts_failing_third :
    (printing failing.compact).source.ready prepared = (.ok ⟨[], []⟩, prepared) ∧
      ((printing failing.compact).trySolve [] [] [] prepared).1 = .ok ⟨[], []⟩ ∧
      ¬ ∃ n sig, Solved.Replies failing.compact n sig [] := by
  have plain : failing.IsPlain := by
    simp [failing, Json.Value.IsPlain, Json.arePlain, Json.membersPlain]
  have error : Solved.Response (.object [("type".toList, .string "error".toList),
      ("error".toList, .string "boom".toList)]) := .error (.told (.object rfl (.inl rfl) rfl))
  have replies : Solved.Replies failing.compact [] [] [_] :=
    .document (Json.read_compact plain) rfl (.object rfl (.inl rfl) rfl) (.object rfl (.inl rfl) rfl)
      (.object rfl (.inl rfl) rfl) (List.forall_mem_singleton.mpr error)
  refine ⟨rfl, ?_, ?_⟩
  · exact trySolve_of_replies (ready_printing failing.compact) (ready_prepared failing.compact) rfl replies
  · rintro ⟨n, sig, two⟩
    cases (replies.unique two).2.2

end Solver
end StreamLinks
