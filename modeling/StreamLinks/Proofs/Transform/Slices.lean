import StreamLinks.Proofs.Script.NameSlices
import StreamLinks.Proofs.Transform.Objects
/-!
Reading a transform by offsets in bytes, and everything that is cut out of a script.

The object of a helper is cut out up to the brace that closes it, where a counter of open braces would fall below zero.
It begins at one and the search ends as soon as it is zero, so it never does. With this, all that is cut out of a
script is what is told by its characters, for every script and whatever is looked for: none of the cuts fails.
-/
namespace StreamLinks.Bytewise
open Text Script Pattern Transform

section definitions

-- The offset of the brace that closes the given depth, where the text begins at an offset.
def closedAt? (depth offset : Nat) : Text → Checked (Option Nat)
  | [] => return none
  | c :: rest =>
    if c = '{' then closedAt? (depth + 1) (offset + c.utf8Size) rest
    else if c = '}' then
      if depth = 0 then .error .belowZero
      else if depth - 1 = 0 then return some offset
      else closedAt? (depth - 1) (offset + c.utf8Size) rest
    else closedAt? depth (offset + c.utf8Size) rest

-- The text between the braces of an object that the script declares.
def objectText? (object script : Text) : Checked (Option Text) :=
  match (objectStart object).first? script with
  | none => return none
  | some found => do
    let inside ← slice script (byteOffset script found.stop) (byteLength script)
    match ← closedAt? 1 0 inside with
    | none => return none
    | some closing => return some (← slice inside 0 closing)

-- The operation of a helper function.
def operation? (object function script : Text) : Checked (Option Operation) := do
  let definition := helperDefinition function
  let inObject := (← objectText? object script).bind fun inside => definition.first? inside
  return ((inObject.or (definition.first? script)).map (·.value)).bind operationOf?

def instructions? (param script : Text) (known : List (Text × Operation)) :
    List Statement → Checked (Option (List Instruction))
  | [] => return some []
  | .call object function argument value :: rest =>
    if argument ≠ param then return none
    else
      match known.lookup function with
      | some operation => do
        return (← instructions? param script known rest).map (operation.instruction value :: ·)
      | none => do
        match ← operation? object function script with
        | some operation =>
          return (← instructions? param script ((function, operation) :: known) rest).map
            (operation.instruction value :: ·)
        | none => return none
  | _ :: _ => return none

-- The instructions of a body if it is simple.
def classify (body script : Text) : Checked (Option (List Instruction)) :=
  match (statementsOf body).mapM Statement.read? with
  | some (.split param :: rest) =>
    match rest.getLast? with
    | some (.join joined) =>
      if param = joined then instructions? param script [] rest.dropLast else return none
    | _ => return none
  | _ => return none

end definitions

section transforms
variable {depth : Nat}

-- The counter is never zero where a brace is met.
theorem closedAt?_eq (within : 1 ≤ depth) (front rest : Text) : closedAt? depth (byteLength front) rest =
    .ok ((untilClosed depth rest).map fun inside => byteLength (front ++ inside)) := by
  induction rest generalizing depth front with
  | nil => rfl
  | cons c rest ih =>
    have next : byteLength front + c.utf8Size = byteLength (front ++ [c]) := by
      rw [byteLength_append, byteLength_cons]
      rfl
    have later {depth : Nat} (within : 1 ≤ depth) : closedAt? depth (byteLength front + c.utf8Size) rest =
        .ok (((untilClosed depth rest).map (c :: ·)).map fun inside => byteLength (front ++ inside)) := by
      rw [next, ih within, Option.map_map]
      simp only [Function.comp_def, ← List.append_cons]
    rw [closedAt?, untilClosed]
    split
    · exact later (Nat.le_add_left 1 depth)
    · split
      · rw [if_neg (Nat.ne_of_gt within)]
        by_cases last : depth ≤ 1
        · rw [if_pos last, if_pos (Nat.sub_eq_zero_of_le last), Option.map_some, List.append_nil]
          rfl
        · rw [if_neg last, if_neg (by omega), later (by omega)]
      · exact later within

theorem stays_objectStart (object : Text) : Stays (objectStart object) :=
  .bind (.boundary _) fun _ => .bind stays_declarator fun _ => .bind (.text object) fun _ => .bind (.every _) fun _ =>
    .bind (.literal _) fun _ => .bind (.every _) fun _ => .literal _

theorem objectText?_eq (object script : Text) :
    objectText? object script = .ok (Transform.objectText? object script) := by
  rw [objectText?, Transform.objectText?]
  cases first : (objectStart object).first? script with
  | none => rfl
  | some found =>
    obtain ⟨front, inside, rfl, stop⟩ := (stays_objectStart object).of_first? first
    have closing : closedAt? 1 0 inside = .ok ((untilClosed 1 inside).map byteLength) :=
      closedAt?_eq (Nat.le_refl 1) [] inside
    simp only [stop, byteOffset_after, slice_from, ok_bind, closing, Option.bind_some, Cursor.after_rest]
    cases cut : untilClosed 1 inside with
    | none => rfl
    | some object =>
      obtain ⟨after, rfl, -⟩ := untilClosed_iff.mp cut
      simp only [Option.map_some, slice_upTo, ok_bind]
      rfl

theorem operation?_eq (object function script : Text) :
    operation? object function script = .ok (Transform.operation? object function script) := by
  rw [operation?, objectText?_eq]
  rfl

theorem instructions?_eq (param script : Text) (known : List (Text × Operation)) (statements : List Statement) :
    instructions? param script known statements = .ok (Transform.instructions? param script known statements) := by
  fun_induction Transform.instructions? param script known statements with
  | case1 known => rfl
  | case2 known object function argument value rest foreign =>
    rw [instructions?, if_pos foreign]
    rfl
  | case3 known object function argument value rest own operation repeats ih =>
    simp only [instructions?, if_neg own, repeats, ih, ok_bind]
    rfl
  | case4 known object function argument value rest own new operation found ih =>
    simp only [instructions?, if_neg own, new, operation?_eq, found, ih, ok_bind]
    rfl
  | case5 known object function argument value rest own new unknown =>
    simp only [instructions?, if_neg own, new, operation?_eq, unknown, ok_bind]
    rfl
  | case6 known statement rest other =>
    cases statement with
    | split param => rfl
    | call object function param value => exact absurd rfl (other object function param value)
    | join param => rfl

theorem classify_eq (body script : Text) : classify body script = .ok (Transform.classify body script) := by
  rw [classify, Transform.classify]
  cases (statementsOf body).mapM Statement.read? with
  | none => rfl
  | some statements =>
    cases statements with
    | nil => rfl
    | cons first rest =>
      cases first with
      | call object function param value => rfl
      | join param => rfl
      | split param =>
        dsimp only
        cases rest.getLast? with
        | none => rfl
        | some last =>
          cases last with
          | split param => rfl
          | call object function param value => rfl
          | join joined =>
            dsimp only
            rw [instructions?_eq]
            split <;> rfl

end transforms

-- All that is cut out of a script by offsets is what is told by its characters, so no cut fails.
theorem never_fails (kind : TokenKind) (word body script : Text) :
    functionName? kind script = .ok (Script.functionName? kind script) ∧
      function? word script = .ok (Script.function? word script) ∧
      functionCode? word script = .ok (Script.functionCode? word script) ∧
      (∀ function, dependencies function script = .ok (Script.dependencies function script)) ∧
      transform? kind script = .ok (Script.transform? kind script) ∧
      classify body script = .ok (Transform.classify body script) :=
  ⟨functionName?_eq kind script, function?_eq word script, functionCode?_eq word script,
    fun function => dependencies_eq function script, transform?_eq kind script, classify_eq body script⟩

end StreamLinks.Bytewise
