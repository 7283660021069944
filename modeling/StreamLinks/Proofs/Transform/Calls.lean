import StreamLinks.Proofs.Traversal
import StreamLinks.Proofs.Transform.Statement
/-!
Which operation a call in a body stands for.

The operation of a function name is looked up once, at the first call of the name, in the object of that
call. A later call of the name through another object is settled by the first one too. So a body means
what its calls mean one by one exactly if for no call the other object makes a difference, or if the body
is not simple for another reason.
-/
namespace StreamLinks.Transform
open Script

variable (param : Word) (calls : List HelperCall) (script : Text)

def callsBody : Text :=
  splitText param ++ ';' :: (calls.flatMap (fun call => call.statement param ++ [';']) ++ joinText param)

section reading

theorem mem_splitText {c : Char} (present : c ∈ splitText param) :
    isNameChar c = true ∨ c ∈ "=.(\")".toList := by
  have method : ".split(\"\")".toList.all (fun c => isNameChar c || "=.(\")".toList.contains c) = true := rfl
  simp only [splitText, List.mem_append] at present
  rcases present with ((target | sign) | source) | here
  · exact .inl (param.plain c target)
  · exact .inr (by obtain rfl := List.mem_singleton.mp sign; decide)
  · exact .inl (param.plain c source)
  · simpa using List.all_eq_true.mp method c here

theorem statementsOf_split (rest : Text) :
    statementsOf (splitText param ++ ';' :: rest) = splitText param :: statementsOf rest := by
  have visible : ∀ c ∈ splitText param, Text.isBlank c = false := by
    intro c present
    rcases mem_splitText param present with inside | mark
    · exact isBlank_of_isNameChar inside
    · have marks : "=.(\")".toList.any Text.isBlank = false := rfl
      exact outside_of_any marks c mark
  apply statementsOf_cons
  · intro present
    rcases mem_splitText param present with inside | mark
    · cases inside
    · revert mark
      decide
  · exact Text.trim_of_ends (fun c present => visible c (List.mem_of_head? present))
      fun c present => visible c (List.mem_of_getLast? present)
  · simp [splitText]

theorem statementsOf_join : statementsOf (joinText param) = [joinText param] := by
  have absent : ';' ∉ joinText param := by
    have named : ';' ∉ param.text := by
      intro present
      cases param.plain _ present
    have keyword : ';' ∉ "return ".toList := by decide
    have method : ';' ∉ ".join(\"\")".toList := by decide
    unfold joinText
    simp only [List.mem_append, keyword, named, method, or_self, not_false_eq_true]
  have filled : joinText param ≠ [] := by
    have keyword : "return ".toList ≠ [] := by decide
    unfold joinText
    simp only [ne_eq, List.append_eq_nil_iff, keyword, false_and, not_false_eq_true]
  have trimmed : Text.trim (joinText param) = joinText param := by
    apply Text.trim_of_ends
    · intro c present
      cases present
      rfl
    · intro c present
      unfold joinText at present
      rw [List.getLast?_append] at present
      cases present
      rfl
  have last := statementsOf_last absent (trimmed.symm ▸ filled)
  rwa [trimmed] at last

theorem statementsOf_calls : statementsOf (callsBody param calls) =
    splitText param :: (calls.map (HelperCall.statement param) ++ [joinText param]) := by
  have inner : statementsOf (calls.flatMap (fun call => call.statement param ++ [';']) ++ joinText param) =
      calls.map (HelperCall.statement param) ++ [joinText param] := by
    induction calls with
    | nil => exact statementsOf_join param
    | cons call calls ih =>
      rw [List.flatMap_cons, List.append_assoc, List.append_assoc, List.singleton_append,
        call.statementsOf_statement, ih, List.map_cons, List.cons_append]
  rw [callsBody, statementsOf_split, inner]

theorem mapM_statements : (calls.map (HelperCall.statement param)).mapM Statement.read? =
    calls.mapM (HelperCall.reading? param) := by
  rw [List.mapM_map]
  congr 1
  funext call
  exact read?_call

theorem classify_eq : classify (callsBody param calls) script =
    (calls.mapM (HelperCall.reading? param)).bind (instructions? param.text script []) := by
  have readings : (statementsOf (callsBody param calls)).mapM Statement.read? =
      (calls.mapM (HelperCall.reading? param)).map fun readings =>
        .split param.text :: (readings ++ [.join param.text]) := by
    rw [statementsOf_calls, mapM_option_cons, read?_split, List.mapM_append, mapM_statements]
    simp only [List.mapM_cons, List.mapM_nil, read?_join]
    cases calls.mapM (HelperCall.reading? param) <;> rfl
  unfold classify
  rw [readings]
  cases calls.mapM (HelperCall.reading? param) with
  | none => rfl
  | some readings =>
    simp only [Option.map_some, List.getLast?_append, List.getLast?_singleton, Option.some_or, if_true,
      List.dropLast_concat, Option.bind_some]

end reading

section settled

-- The call that settles what a function name stands for: the first of the calls with this name.
def settledBy? (name : Text) : Option HelperCall := calls.find? (·.function.text == name)

-- The call as if it went through the object that settles its name.
def settled (call : HelperCall) : HelperCall :=
  { call with object := ((settledBy? calls call.function.text).getD call).object }

def HelperCall.operation? (call : HelperCall) : Option Operation :=
  Transform.operation? call.object.text call.function.text script

def HelperCall.instruction? (call : HelperCall) : Option Instruction :=
  call.value?.bind fun value => (call.operation? script).map (·.instruction value)

-- What is kept after the calls so far is what the first call of each name stands for.
structure Kept (earlier : List HelperCall) (known : List (Text × Operation)) : Prop where
  found : ∀ name operation, known.lookup name = some operation →
    ∃ first, settledBy? earlier name = some first ∧ first.operation? script = some operation
  missing : ∀ name, known.lookup name = none → settledBy? earlier name = none

theorem settledBy?_append (front back : List HelperCall) (name : Text) :
    settledBy? (front ++ back) name = (settledBy? front name).or (settledBy? back name) :=
  List.find?_append

theorem function_of_settledBy? {calls : List HelperCall} {name : Text} {first : HelperCall}
    (found : settledBy? calls name = some first) : first.function.text = name := by
  simpa using List.find?_some found

theorem settled_of_first {calls : List HelperCall} {call first : HelperCall}
    (found : settledBy? calls call.function.text = some first) :
    (settled calls call).operation? script = first.operation? script := by
  unfold HelperCall.operation? settled
  rw [found, Option.getD_some, function_of_settledBy? found]

section step
variable {script} {earlier : List HelperCall} {known : List (Text × Operation)} {call : HelperCall}
  {operation : Operation}

theorem kept_nil : Kept script [] [] where
  found := by
    intro name operation present
    cases present
  missing := fun _ _ => rfl

-- A name that is kept has been called before.
theorem Kept.again (kept : Kept script earlier known)
    (here : known.lookup call.function.text = some operation) :
    Kept script (earlier ++ [call]) known ∧
      ∀ later, (settled (earlier ++ call :: later) call).operation? script = some operation := by
  obtain ⟨first, found, same⟩ := kept.found _ _ here
  refine ⟨⟨?_, ?_⟩, ?_⟩
  · intro name other present
    obtain ⟨first, found, same⟩ := kept.found name other present
    exact ⟨first, by rw [settledBy?_append, found, Option.some_or], same⟩
  · intro name absent
    have other : (call.function.text == name) = false := by
      rw [beq_eq_false_iff_ne]
      intro same
      rw [same, absent] at here
      cases here
    rw [settledBy?_append, kept.missing name absent, Option.none_or]
    simp [settledBy?, other]
  · intro later
    have front : settledBy? (earlier ++ call :: later) call.function.text = some first := by
      rw [settledBy?_append, found, Option.some_or]
    rw [settled_of_first script front, same]

-- A name that is not kept is called for the first time.
theorem Kept.settled_first (kept : Kept script earlier known)
    (here : known.lookup call.function.text = none) (later : List HelperCall) :
    (settled (earlier ++ call :: later) call).operation? script = call.operation? script := by
  have first : settledBy? (earlier ++ call :: later) call.function.text = some call := by
    rw [settledBy?_append, kept.missing _ here, Option.none_or]
    simp [settledBy?]
  exact settled_of_first script first

theorem Kept.insert (kept : Kept script earlier known)
    (here : known.lookup call.function.text = none) (looked : call.operation? script = some operation) :
    Kept script (earlier ++ [call]) ((call.function.text, operation) :: known) := by
  refine ⟨?_, ?_⟩
  · intro name other present
    by_cases same : name = call.function.text
    · subst same
      rw [List.lookup_cons_self] at present
      cases present
      refine ⟨call, ?_, looked⟩
      rw [settledBy?_append, kept.missing _ here, Option.none_or]
      simp [settledBy?]
    · rw [List.lookup_cons, beq_false_of_ne same] at present
      obtain ⟨first, found, looked⟩ := kept.found name other present
      exact ⟨first, by rw [settledBy?_append, found, Option.some_or], looked⟩
  · intro name absent
    have other : name ≠ call.function.text := by
      intro same
      subst same
      rw [List.lookup_cons_self] at absent
      cases absent
    rw [List.lookup_cons, beq_false_of_ne other] at absent
    rw [settledBy?_append, kept.missing name absent, Option.none_or]
    simp [settledBy?, Ne.symm other]

end step

theorem instructions?_call (known : List (Text × Operation)) (call : HelperCall) (value : Nat)
    (rest : List Statement) :
    instructions? param.text script known
        (.call call.object.text call.function.text param.text value :: rest) =
      match known.lookup call.function.text with
      | some operation =>
        (instructions? param.text script known rest).map (operation.instruction value :: ·)
      | none => (call.operation? script).bind fun operation =>
        (instructions? param.text script ((call.function.text, operation) :: known) rest).map
          (operation.instruction value :: ·) := by
  rw [instructions?, if_neg (by simp)]
  cases known.lookup call.function.text with
  | some operation => rfl
  | none =>
    unfold HelperCall.operation?
    cases Transform.operation? call.object.text call.function.text script <;> rfl

theorem bind_map_cons {readings : Option (List Statement)} {next : List Statement → Option (List Instruction)}
    (instruction : Instruction) :
    (readings.bind fun rest => (next rest).map (instruction :: ·)) =
      (readings.bind next).map (instruction :: ·) := by
  cases readings <;> rfl

theorem instructions?_eq {earlier : List HelperCall} {known : List (Text × Operation)}
    (kept : Kept script earlier known) :
    (calls.mapM (HelperCall.reading? param)).bind (instructions? param.text script known) =
      calls.mapM fun call => (settled (earlier ++ calls) call).instruction? script := by
  induction calls generalizing earlier known with
  | nil => rfl
  | cons call calls ih =>
    have whole : earlier ++ call :: calls = (earlier ++ [call]) ++ calls := by simp
    have same : (settled (earlier ++ call :: calls) call).value? = call.value? := rfl
    rw [mapM_option_cons, mapM_option_cons]
    cases value : call.value? with
    | none =>
      simp only [HelperCall.reading?, HelperCall.instruction?, same, value, Option.map_none,
        Option.bind_none]
    | some number =>
      have reading : call.reading? param =
          some (.call call.object.text call.function.text param.text number) := by
        rw [HelperCall.reading?, value, Option.map_some]
      have instruction : (settled (earlier ++ call :: calls) call).instruction? script =
          ((settled (earlier ++ call :: calls) call).operation? script).map (·.instruction number) := by
        rw [HelperCall.instruction?, same, value, Option.bind_some]
      rw [reading, instruction, Option.bind_some, Option.bind_map]
      simp only [Function.comp_def, instructions?_call]
      cases here : known.lookup call.function.text with
      | some operation =>
        obtain ⟨kept, settledAs⟩ := kept.again here
        simp only [settledAs, bind_map_cons, ih kept, Option.map_some, Option.bind_some]
        rw [whole]
      | none =>
        rw [kept.settled_first here]
        cases looked : call.operation? script with
        | none => cases calls.mapM (HelperCall.reading? param) <;> rfl
        | some operation =>
          simp only [bind_map_cons, ih (kept.insert here looked), Option.map_some, Option.bind_some]
          rw [whole]

theorem classify_calls : classify (callsBody param calls) script =
    calls.mapM fun call => (settled calls call).instruction? script := by
  have all := instructions?_eq param calls script kept_nil
  rw [List.nil_append] at all
  rw [classify_eq, all]

theorem classify_call (call : HelperCall) :
    classify (callsBody param [call]) script = (call.instruction? script).map ([·]) := by
  have self : settled [call] call = call := by simp [settled, settledBy?]
  rw [classify_calls, mapM_option_cons, self]
  cases call.instruction? script <;> rfl

theorem classify_call_eq_some (call : HelperCall) (instruction : Instruction) :
    classify (callsBody param [call]) script = some [instruction] ↔
      call.instruction? script = some instruction := by
  rw [classify_call]
  cases call.instruction? script <;> simp

end settled

section call_by_call

-- The instructions of a body are those of its calls, each classified on its own.
def CallByCall : Prop := ∀ instructions, classify (callsBody param calls) script = some instructions ↔
  List.Forall₂ (fun call instruction => classify (callsBody param [call]) script = some [instruction])
    calls instructions

-- Where the call that settles a name is to blame, it fails on its own as well.
theorem exists_failing {calls : List HelperCall} {call : HelperCall} (present : call ∈ calls)
    (fails : (settled calls call).instruction? script = none) :
    ∃ other ∈ calls, other.instruction? script = none := by
  cases value : call.value? with
  | none => exact ⟨call, present, by rw [HelperCall.instruction?, value, Option.bind_none]⟩
  | some number =>
    have named : (settledBy? calls call.function.text).isSome := by
      rw [settledBy?, List.find?_isSome]
      exact ⟨call, present, beq_self_eq_true _⟩
    obtain ⟨first, found⟩ := Option.isSome_iff_exists.mp named
    have same : (settled calls call).value? = some number := value
    rw [HelperCall.instruction?, same, Option.bind_some, Option.map_eq_none_iff,
      settled_of_first script found] at fails
    refine ⟨first, List.mem_of_find?_eq_some found, ?_⟩
    rw [HelperCall.instruction?, fails]
    cases first.value? <;> rfl

theorem classify_call_congr (call other : HelperCall) :
    classify (callsBody param [call]) script = classify (callsBody param [other]) script ↔
      call.instruction? script = other.instruction? script := by
  rw [classify_call, classify_call]
  cases call.instruction? script <;> cases other.instruction? script <;> simp

theorem classify_call_eq_none (call : HelperCall) :
    classify (callsBody param [call]) script = none ↔ call.instruction? script = none := by
  rw [classify_call, Option.map_eq_none_iff]

theorem callByCall_iff_mapM : CallByCall param calls script ↔
    (calls.mapM fun call => (settled calls call).instruction? script) =
      calls.mapM (HelperCall.instruction? script) := by
  unfold CallByCall
  simp only [classify_calls param calls, classify_call_eq_some, ← mapM_eq_some_iff]
  rw [Option.ext_iff]

theorem call_by_call_iff :
    (∀ instructions, classify (callsBody param calls) script = some instructions ↔
      List.Forall₂ (fun call instruction =>
        classify (callsBody param [settled calls call]) script = some [instruction])
        calls instructions) ∧
      (CallByCall param calls script ↔
        (∀ call ∈ calls, classify (callsBody param [settled calls call]) script =
          classify (callsBody param [call]) script) ∨
        ∃ call ∈ calls, classify (callsBody param [settled calls call]) script = none) := by
  refine ⟨?_, ?_⟩
  · intro instructions
    simp only [classify_calls param calls, classify_call_eq_some, ← mapM_eq_some_iff]
  · have fails : (∃ call ∈ calls, (settled calls call).instruction? script = none) →
        ∃ call ∈ calls, call.instruction? script = none := by
      intro failing
      obtain ⟨call, present, here⟩ := failing
      exact exists_failing script present here
    simp only [callByCall_iff_mapM, classify_call_congr, classify_call_eq_none]
    exact mapM_eq_mapM_iff fails

section two_objects

-- Two objects with a helper of the same name, and a call of each.
def twoObjects : Text :=
  "var P=\x7bf:function(a,b)\x7ba.splice(0,b)\x7d\x7d;var Q=\x7bf:function(a)\x7ba.reverse()\x7d\x7d;".toList

def throughP : HelperCall where
  object := ⟨"P".toList, by decide, List.all_eq_true.mp rfl⟩
  function := ⟨"f".toList, by decide, List.all_eq_true.mp rfl⟩
  numeral := some "1".toList
  digits := by simp

def throughQ : HelperCall where
  object := ⟨"Q".toList, by decide, List.all_eq_true.mp rfl⟩
  function := ⟨"f".toList, by decide, List.all_eq_true.mp rfl⟩
  numeral := some "2".toList
  digits := by simp

theorem not_call_by_call : ¬ CallByCall letterA [throughP, throughQ] twoObjects := by
  have whole : classify (callsBody letterA [throughP, throughQ]) twoObjects =
      some [.splice 1, .splice 2] := by decide
  have alone : classify (callsBody letterA [throughQ]) twoObjects = some [.reverse] := by decide
  intro same
  have related := (same _).mp whole
  cases related with
  | cons _ later =>
    cases later with
    | cons second _ =>
      rw [alone] at second
      cases second

end two_objects

end call_by_call
end StreamLinks.Transform
