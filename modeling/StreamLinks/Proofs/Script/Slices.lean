import StreamLinks.Proofs.Script.ByteAgreement
import StreamLinks.Proofs.Script.Declarations
import StreamLinks.Proofs.Search.Inside
/-!
Definitions that are cut out of a script by offsets in bytes.

What a pattern finds is a place between characters, and so are the marks and ends of code that are looked for from
there. Parts of the script are cut out from one of these offsets to a later one, or to one byte behind a mark, which
takes a single byte. So each cut is the part that is told by its characters, and none of them fails.
-/
namespace StreamLinks.Bytewise
open Text Script Pattern

section definitions

-- The offset of a place.
def byteOffset (script : Text) (place : Cursor) : Nat := byteLength (script.take place.offset)

-- The offset behind the opening bracket of the parameters of the function with this name.
def headEnd? (word script : Text) : Option (Binding × Nat) :=
  match (namedFunction (text word)).first? script with
  | some found => some (.named, byteOffset script found.stop)
  | none => ((assignedFunction (text word)).first? script).map fun found => (.assigned, byteOffset script found.stop)

-- The offset at which the body ends whose opening brace is at an offset.
def bodyEnd? (script : Text) (opening : Nat) : Checked (Option Nat) :=
  match matchingBrace script opening with
  | some closing => return some closing
  | none => do
    let fromBrace ← slice script opening (byteLength script)
    return (find? "\x7d;".toList fromBrace).map (opening + ·)

-- The parameters from an offset on, what follows them up to an opening brace, and the offset of this brace.
def opening? (script : Text) (paramsStart : Nat) : Checked (Option (Text × Text × Nat)) := do
  let fromParams ← slice script paramsStart (byteLength script)
  match find? [')'] fromParams with
  | none => return none
  | some bracket =>
    let paramsEnd := paramsStart + bracket
    let params ← slice script paramsStart paramsEnd
    let behindParams ← slice script (paramsEnd + 1) (byteLength script)
    match find? ['{'] behindParams with
    | none => return none
    | some brace =>
      let gap ← slice script (paramsEnd + 1) (paramsEnd + 1 + brace)
      return some (params, gap, paramsEnd + 1 + brace)

-- The definition of the function with this name.
def function? (word script : Text) : Checked (Option Function) :=
  match headEnd? word script with
  | none => return none
  | some (binding, paramsStart) => do
    match ← opening? script paramsStart with
    | none => return none
    | some (params, gap, opening) =>
      if !gap.all isBlank then return none
      else
        match ← bodyEnd? script opening with
        | none => return none
        | some closing =>
          let body ← slice script (opening + 1) closing
          return some ⟨word, parametersOf params, body, binding.declaration word params body⟩

-- The statement that begins at an offset, with its semicolon.
def statement? (script : Text) (start : Nat) : Checked (Option Text) :=
  match statementEnd script start with
  | none => return none
  | some stop => do return some (← slice script start (stop + 1))

def declaration? (name script : Text) : Checked (Option Text) :=
  match (declaredVariables script).lookup name with
  | some place => statement? script (byteOffset script place)
  | none => do
    if (functionNames script).contains name then return (← function? name script).map (·.declaration)
    else return none

-- The helpers that a function reads and the script declares.
def dependencies (function : Function) (script : Text) : Checked (List Dependency) := do
  let helpers ← function.freeNames.mapM fun name => do
    return (← declaration? name script).map fun code => (⟨name, code⟩ : Dependency)
  return helpers.filterMap id

-- The source of the function with this name.
def functionCode? (word script : Text) : Checked (Option Text) := do
  return (← function? word script).map (runnableCode · script)

end definitions

section heads

theorem byteOffset_after (front tail rest : Text) :
    byteOffset (front ++ tail) (.after front rest) = byteLength front := by
  rw [byteOffset, Cursor.after, List.take_left]

theorem stays_declarator : Stays declarator :=
  .bind (.either (.literal _) (.either (.literal _) (.literal _))) fun _ => .atLeast (.many _) 1

theorem stays_namedFunction (word : Text) : Stays (namedFunction (text word)) :=
  .bind (.boundary _) fun _ => .bind (.literal _) fun _ => .bind (.atLeast (.many _) 1) fun _ =>
    .bind (.text word) fun _ => .bind (.every _) fun _ => .bind (.literal _) fun _ => .pure _

theorem stays_assignedFunction (word : Text) : Stays (assignedFunction (text word)) :=
  .bind (.boundary _) fun _ => .bind stays_declarator.optional fun _ => .bind (.text word) fun _ =>
    .bind (.every _) fun _ => .bind (.literal _) fun _ => .bind (.every _) fun _ => .bind (.literal _) fun _ =>
      .bind (.every _) fun _ => .bind (.literal _) fun _ => .pure _

-- The offset is that of the place behind the head.
theorem headEnd?_cases (word script : Text) : (functionHead? word script = none ∧ headEnd? word script = none) ∨
    ∃ binding front behind, script = front ++ behind ∧ functionHead? word script = some (binding, behind) ∧
      headEnd? word script = some (binding, byteLength front) := by
  cases named : (namedFunction (text word)).first? script with
  | some found =>
    obtain ⟨front, behind, rfl, stop⟩ := (stays_namedFunction word).of_first? named
    refine .inr ⟨.named, front, behind, rfl, ?_, ?_⟩
    · simp only [functionHead?, named, stop, Cursor.after_rest]
    · simp only [headEnd?, named, stop, byteOffset_after]
  | none =>
    cases assigned : (assignedFunction (text word)).first? script with
    | none => exact .inl ⟨by simp only [functionHead?, named, assigned, Option.map_none],
        by simp only [headEnd?, named, assigned, Option.map_none]⟩
    | some found =>
      obtain ⟨front, behind, rfl, stop⟩ := (stays_assignedFunction word).of_first? assigned
      refine .inr ⟨.assigned, front, behind, rfl, ?_, ?_⟩
      · simp only [functionHead?, named, assigned, stop, Cursor.after_rest, Option.map_some]
      · simp only [headEnd?, named, assigned, stop, byteOffset_after, Option.map_some]

end heads

section bodies

-- The body begins right behind its brace and ends no earlier than there.
theorem bodyEnd?_cases (front text : Text) :
    (bodyOf? ('{' :: text) = none ∧ bodyEnd? (front ++ '{' :: text) (byteLength front) = .ok none) ∨
      ∃ body behind, text = body ++ behind ∧ bodyOf? ('{' :: text) = some body ∧
        bodyEnd? (front ++ '{' :: text) (byteLength front) = .ok (some (byteLength (front ++ '{' :: body))) := by
  have walk := matchingBrace_eq front text
  have cutOut (body behind : Text) : ((('{' :: (body ++ behind)).take (body.length + 1)).drop 1) = body := by simp
  cases closing : Script.matchingBrace ('{' :: text) with
  | some found =>
    obtain ⟨body, behind, rfl, rfl, -⟩ := exists_partners closing
    rw [closing, Option.map_some, List.take_succ_cons, List.take_left] at walk
    refine .inr ⟨body, '}' :: behind, rfl, ?_, ?_⟩
    · rw [bodyOf?, closing, Option.some_or, Option.map_some, cutOut]
    · rw [bodyEnd?, walk]
      rfl
  | none =>
    rw [closing, Option.map_none] at walk
    cases fallback : cut "\x7d;".toList ('{' :: text) with
    | none =>
      refine .inl ⟨?_, ?_⟩
      · rw [bodyOf?, closing, fallback]
        rfl
      · simp only [bodyEnd?, walk, slice_from, ok_bind, find?_of_absent fallback]
        rfl
    | some parts =>
      obtain ⟨head, behind⟩ := parts
      -- The mark does not begin with the opening brace.
      obtain ⟨body, rfl⟩ : ∃ body, head = '{' :: body := by
        cases head with
        | nil => cases cut_append fallback
        | cons c head =>
          have whole := cut_append fallback
          exact ⟨head, by rw [(List.cons.inj whole).1]⟩
      obtain rfl : text = body ++ ("\x7d;".toList ++ behind) := by simpa using cut_append fallback
      refine .inr ⟨body, _, rfl, ?_, ?_⟩
      · rw [bodyOf?, closing, fallback, Option.none_or, Option.map_some, Option.map_some, List.length_cons, cutOut]
      · simp only [bodyEnd?, walk, slice_from, ok_bind, find?_of_cut fallback, Option.map_some, ← byteLength_append]
        rfl

theorem opening?_cases (front fromParams : Text) :
    (((cut [')'] fromParams).bind fun parts => cut ['{'] parts.2) = none ∧
      opening? (front ++ fromParams) (byteLength front) = .ok none) ∨
    ∃ params gap text, fromParams = params ++ ')' :: (gap ++ '{' :: text) ∧
      cut [')'] fromParams = some (params, gap ++ '{' :: text) ∧ cut ['{'] (gap ++ '{' :: text) = some (gap, text) ∧
        opening? (front ++ fromParams) (byteLength front) =
          .ok (some (params, gap, byteLength (front ++ (params ++ ')' :: gap)))) := by
  cases bracket : cut [')'] fromParams with
  | none =>
    refine .inl ⟨rfl, ?_⟩
    simp only [opening?, slice_from, ok_bind, find?_of_absent bracket]
    rfl
  | some parts =>
    obtain ⟨params, behindParams⟩ := parts
    obtain rfl : fromParams = params ++ ')' :: behindParams := by simpa using cut_append bracket
    have whole : front ++ (params ++ ')' :: behindParams) = (front ++ params) ++ ')' :: behindParams :=
      (List.append_assoc _ _ _).symm
    have fromBracket := slice_rest (c := ')') rfl (front ++ params) behindParams
    rw [← whole] at fromBracket
    cases brace : cut ['{'] behindParams with
    | none =>
      refine .inl ⟨brace, ?_⟩
      simp only [opening?, slice_from, ok_bind, find?_of_cut bracket, ← byteLength_append, slice_part, fromBracket,
        find?_of_absent brace]
      rfl
    | some parts =>
      obtain ⟨gap, text⟩ := parts
      obtain rfl : behindParams = gap ++ '{' :: text := by simpa using cut_append brace
      have gapFound := slice_behind (c := ')') rfl (front ++ params) gap ('{' :: text)
      have place : byteLength (front ++ params) + 1 + byteLength gap =
          byteLength ((front ++ params) ++ ')' :: gap) := by
        rw [← byteLength_concat (c := ')') rfl, ← byteLength_append, ← List.append_cons]
      rw [← whole] at gapFound
      refine .inr ⟨params, gap, text, rfl, rfl, brace, ?_⟩
      simp only [opening?, slice_from, ok_bind, find?_of_cut bracket, ← byteLength_append, slice_part, fromBracket,
        find?_of_cut brace, place, gapFound]
      rw [List.append_assoc]
      rfl

theorem function?_eq (word script : Text) : function? word script = .ok (Script.function? word script) := by
  rcases headEnd?_cases word script with ⟨head, offset⟩ | ⟨binding, front, fromParams, rfl, head, offset⟩
  · rw [function?, offset, Script.function?, head]
    rfl
  · rcases opening?_cases front fromParams with ⟨unopened, found⟩ | ⟨params, gap, text, rfl, bracket, brace, found⟩
    · have nothing : Script.function? word (front ++ fromParams) = none := by
        cases bracket : cut [')'] fromParams with
        | none => simp only [Script.function?, head, bracket, Option.bind_eq_bind, Option.bind_some, Option.bind_none]
        | some parts =>
          have unbraced : cut ['{'] parts.2 = none := by simpa [bracket] using unopened
          simp only [Script.function?, head, bracket, unbraced, Option.bind_eq_bind, Option.bind_some, Option.bind_none]
      simp only [function?, offset, found, ok_bind, nothing]
      rfl
    · simp only [function?, offset, found, ok_bind, Script.function?, head, bracket, brace, Option.bind_eq_bind,
        Option.bind_some]
      split
      · rfl
      · have whole : front ++ (params ++ ')' :: (gap ++ '{' :: text)) =
            (front ++ (params ++ ')' :: gap)) ++ '{' :: text := by simp
        rw [whole]
        rcases bodyEnd?_cases (front ++ (params ++ ')' :: gap)) text with
          ⟨unclosed, none⟩ | ⟨body, behind, rfl, closed, closing⟩
        · rw [none, unclosed]
          rfl
        · simp only [closing, closed, ok_bind, slice_behind (c := '{') rfl]
          rfl

-- The walk goes on inside a character, and the body begins and ends between characters.
example : function? ['F'] "é;F=function(a)\x7breturn\"\\é\x7d\"\x7d".toList =
    .ok (some ⟨['F'], [['a']], "return\"\\é\x7d\"".toList,
      "var F=function(a)\x7breturn\"\\é\x7d\"\x7d;".toList⟩) := by
  rw [function?_eq]
  exact congrArg Except.ok (by decide)

end bodies

section uses

theorem statement?_eq {c : Char} (name : isNameChar c = true) (front rest : Text) :
    statement? (front ++ c :: rest) (byteLength front) = .ok (statementFrom (.after front (c :: rest))) := by
  have noSlash : c ≠ '/' := by
    rintro rfl
    cases name
  have walk := statementEnd_eq (isAsciiBlank_of_isNameChar name) noSlash front rest
  cases ends : Script.statementEnd (c :: rest) with
  | none =>
    rw [ends] at walk
    rw [statement?, walk, statementFrom, Cursor.after_rest, ends]
    rfl
  | some offset =>
    obtain ⟨statement, tail, -, -, split, rfl, -, -, -⟩ := statementEnd_parts ends
    rw [ends, split, Option.map_some, List.take_left, ← split] at walk
    have cutOut := slice_with (c := ';') rfl front statement tail
    have taken : (c :: rest).take (statement.length + 1) = statement ++ [';'] := by
      rw [split, List.append_cons]
      exact List.take_left' List.length_append
    rw [← split] at cutOut
    simp only [statement?, walk, cutOut, statementFrom, Cursor.after_rest, ends, Option.map_some, taken]
    rfl

theorem declaration?_eq (name script : Text) :
    declaration? name script = .ok (Script.declaration? name script) := by
  rw [declaration?, Script.declaration?]
  cases declared : (declaredVariables script).lookup name with
  | some place =>
    obtain ⟨earlier, later, all, -⟩ := List.lookup_eq_some_iff.mp declared
    have here : (name, place) ∈ declaredVariables script := all ▸ List.mem_append_right earlier List.mem_cons_self
    obtain ⟨front, c, rest, rfl, rfl, first⟩ := exists_declarator here
    dsimp only
    rw [byteOffset_after, statement?_eq first]
  | none =>
    simp only [function?_eq, ok_bind]
    split <;> rfl

theorem dependencies_eq (function : Function) (script : Text) :
    dependencies function script = .ok (Script.dependencies function script) := by
  have each : (function.freeNames.mapM fun name => (do
      return (← declaration? name script).map fun code => (⟨name, code⟩ : Dependency) : Checked (Option Dependency))) =
      .ok (function.freeNames.map fun name => (Script.declaration? name script).map fun code => ⟨name, code⟩) := by
    simp only [declaration?_eq, ok_bind]
    exact List.mapM_pure
  rw [dependencies, each, ok_bind, List.filterMap_map]
  rfl

theorem functionCode?_eq (word script : Text) :
    functionCode? word script = .ok (Script.functionCode? word script) := by
  rw [functionCode?, function?_eq]
  rfl

end uses
end StreamLinks.Bytewise
