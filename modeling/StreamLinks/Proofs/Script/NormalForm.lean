import StreamLinks.Proofs.Script.Declarations
import StreamLinks.Proofs.Search.Leftmost
/-!
Declarations as normal forms.

The declaration of a function is a script of its own, and it defines the same function with the same declaration. The
walk over code finds the same closing brace in it, as no literal reaches over that brace. A definition that the script
does not hold does not come about by cutting either: its name, its parameters and its body are apart in both texts.
-/
namespace StreamLinks.Script
open Pattern

-- The script from the opening brace of the function with this name.
def fromBrace? (word script : Text) : Option Text := do
  let (_, fromParams) ← functionHead? word script
  let (_, behindParams) ← Text.cut [')'] fromParams
  let (_, behindBrace) ← Text.cut ['{'] behindParams
  return '{' :: behindBrace

-- A brace closes the body, so it need not end at the first brace with a semicolon behind it.
def ClosedByBrace (word script : Text) : Prop := ((fromBrace? word script).bind matchingBrace).isSome = true

instance (word script : Text) : Decidable (ClosedByBrace word script) := inferInstanceAs (Decidable (_ = true))

section closing
variable {word script body behind tail : Text} {function : Function}

-- Without a slash behind it the brace stays the partner of the opening one.
theorem Partners.replace (partners : Partners body behind) (noSlash : '/' ∉ tail) : Partners body tail := by
  obtain ⟨row, others, split, paired⟩ := partners
  rw [Nat.add_comm] at split
  obtain ⟨seen, cut⟩ := codeFrom_cut split
  refine ⟨row, codeFrom .code (some '}') (body.length + 2) tail, ?_, paired⟩
  rw [codeBehindBrace, cut tail (.inr noSlash), codeFrom_cons, Nat.add_comm 1]
  rfl

-- The parts of a function whose body a brace closes.
theorem ClosedByBrace.parts (closed : ClosedByBrace word script) (found : function? word script = some function) :
    ∃ binding params gap body behind,
      functionHead? word script = some (binding, params ++ ')' :: (gap ++ '{' :: (body ++ '}' :: behind))) ∧
      ')' ∉ params ∧ Partners body behind ∧
      function = ⟨word, parametersOf params, body, binding.declaration word params body⟩ := by
  obtain ⟨binding, fromParams, params, behind, gap, fromBrace, body, head, cutParams, cutBrace, -, ends, rfl⟩ :=
    function?_parts found
  have opening : fromBrace? word script = some ('{' :: fromBrace) := by
    simp only [fromBrace?, head, cutParams, cutBrace, Option.bind_eq_bind, Option.bind_some]
    rfl
  rw [ClosedByBrace, opening, Option.bind_some] at closed
  obtain ⟨offset, closes⟩ := Option.isSome_iff_exists.mp closed
  obtain ⟨inner, after, rfl, -, partners⟩ := exists_partners closes
  obtain rfl : inner = body := Option.some.inj ((bodyOf?_of_closes (partners_iff.mp partners)).symm.trans ends)
  refine ⟨binding, params, gap, inner, after, ?_, Text.not_mem_of_cut_char cutParams, partners, rfl⟩
  rw [head, Text.cut_append cutParams, Text.cut_append cutBrace]
  simp

end closing

section heads
variable {word : Word} {params body rest : Text} {way : Unit × Cursor}

theorem heading_named (word rest : Text) : Binding.named.heading word ++ '(' :: rest =
    "function".toList ++ (" ".toList ++ (word ++ ("(".toList ++ rest))) := by
  have keyword : "function ".toList = "function".toList ++ " ".toList := rfl
  unfold Binding.heading
  simp only [keyword, List.append_assoc]
  rfl

theorem heading_assigned (word rest : Text) : Binding.assigned.heading word ++ '(' :: rest =
    "var".toList ++ (" ".toList ++ (word ++ ("=".toList ++ ("function".toList ++ ("(".toList ++ rest))))) := by
  have keyword : "var ".toList = "var".toList ++ " ".toList := rfl
  have sign : "=function".toList = "=".toList ++ "function".toList := rfl
  unfold Binding.heading
  simp only [keyword, sign, List.append_assoc]
  rfl

-- At the start of its declaration a function is found in one way only.
theorem namedFunction_front (found : way ∈ namedFunction (Pattern.text word.text)
    (.after [] (Binding.named.heading word.text ++ '(' :: rest))) : way.2.rest = rest := by
  rw [heading_named] at found
  simp only [namedFunction, bareStart_then, literal_then, blanksBeforeWord_then, text_then, blanks_then,
    mem_pure] at found
  obtain ⟨opening, _, split, opens, _, rfl, gap, _, rfl, apart, -, _, rfl, _, _, spans, _, rfl, rfl⟩ := found
  rcases opens with ⟨-, rfl⟩ | ⟨c, rfl, outside⟩
  · obtain ⟨-, same⟩ := gap_unique gap_space apart (List.append_cancel_left split)
    rw [← List.append_cancel_left same] at spans
    exact List.append_cancel_left (spans.read_mark rfl)
  · obtain rfl : 'f' = c := (List.cons.inj split).1
    cases outside

theorem assignedFunction_front (found : way ∈ assignedFunction (Pattern.text word.text)
    (.after [] (Binding.assigned.heading word.text ++ '(' :: rest))) : way.2.rest = rest := by
  rw [heading_assigned] at found
  simp only [assignedFunction, bareStart_then, optional_then, declarator_then, text_then, blanks_then,
    literal_then, mem_pure] at found
  obtain ⟨opening, _, split, opens, found⟩ := found
  rcases opens with ⟨-, rfl⟩ | ⟨c, rfl, outside⟩
  · rcases found with ⟨keyword, gap, _, rfl, known, apart, filled, after, rfl, found⟩ | ⟨after, rfl, found⟩
    · obtain ⟨_, _, spans, _, rfl, _, _, spansBehind, _, rfl, _, _, spansOpening, _, rfl, rfl⟩ := found
      have here : Declaring ("var".toList ++ " ".toList) := .keyword (by decide) gap_space (List.cons_ne_nil _ _)
      have there : Declaring (keyword ++ gap) := .keyword known apart (List.length_pos_iff.mp filled)
      obtain ⟨-, same⟩ := here.unique there ((List.append_assoc _ _ _).trans split)
      rw [← List.append_cancel_left same] at spans
      rw [List.append_cancel_left (spans.read_mark rfl)] at spansBehind
      rw [List.append_cancel_left (spansBehind.read_mark rfl)] at spansOpening
      exact List.append_cancel_left (spansOpening.read_mark rfl)
    · -- Without a declarator the name would be the word "var", and then an equals sign would follow the blank.
      obtain ⟨gap, _, spans, afterSign, rfl, -⟩ := found
      have keyword : Spans isNameChar "var".toList (" ".toList ++ (word.text ++ ("=".toList ++ ("function".toList ++
          ("(".toList ++ rest))))) (word.text ++ after) := by
        rw [← show _ = word.text ++ after from split]
        exact .of_mark (isNameChar_of_keyword (by decide)) rfl _
      obtain ⟨-, rfl⟩ := keyword.unique ⟨rfl, word.plain, spans.split ▸ outside_of_gap spans.inside rfl afterSign⟩
      obtain ⟨-, same⟩ := spans.unique ⟨rfl, gap_space, word.blank_outside _⟩
      obtain ⟨first, others, named⟩ := List.exists_cons_of_ne_nil word.filled
      have plain := word.plain first (by simp [named])
      rw [named] at same
      obtain rfl : '=' = first := (List.cons.inj same).1
      cases plain
  · obtain rfl : 'v' = c := (List.cons.inj split).1
    cases outside

theorem exists_namedFunction (word : Word) (rest : Text) : ∃ way, way ∈ namedFunction (Pattern.text word.text)
    (.after [] (Binding.named.heading word.text ++ '(' :: rest)) := by
  rw [heading_named]
  simp only [namedFunction, bareStart_then, literal_then, blanksBeforeWord_then, text_then, blanks_then,
    mem_pure]
  exact ⟨_, [], _, (List.nil_append _).symm, .inl ⟨rfl, rfl⟩, _, rfl, " ".toList, _, rfl, gap_space, Nat.le_refl 1, _,
    rfl, [], _, .empty rfl _, _, rfl, rfl⟩

theorem exists_assignedFunction (word : Word) (rest : Text) : ∃ way, way ∈ assignedFunction (Pattern.text word.text)
    (.after [] (Binding.assigned.heading word.text ++ '(' :: rest)) := by
  rw [heading_assigned]
  simp only [assignedFunction, bareStart_then, optional_then, declarator_then, text_then, blanks_then,
    literal_then, mem_pure]
  exact ⟨_, [], _, (List.nil_append _).symm, .inl ⟨rfl, rfl⟩, .inl ⟨"var".toList, " ".toList, _,
    (List.append_assoc _ _ _).symm, by decide, gap_space, Nat.le_refl 1, _, rfl, [], _, .empty rfl _, _, rfl, [], _,
    .empty rfl _, _, rfl, [], _, .empty rfl _, _, rfl, rfl⟩⟩

-- The head of a declaration is at its start, unless the word "function" stands before the name anywhere else.
theorem functionHead?_heading (binding : Binding)
    (unnamed : binding = .assigned → ¬ Named word.text (binding.heading word.text ++ '(' :: rest)) :
    functionHead? word.text (binding.heading word.text ++ '(' :: rest) = some (binding, rest) := by
  have more : binding.heading word.text ++ '(' :: rest ≠ [] := by simp
  cases binding with
  | named =>
    obtain ⟨way, present⟩ := exists_namedFunction word rest
    have common : ∀ (value : Unit) (stop : Cursor), (value, stop) ∈ namedFunction (Pattern.text word.text)
        (.after [] (Binding.named.heading word.text ++ '(' :: rest)) → stop.rest = rest :=
      fun _ _ found => namedFunction_front found
    obtain ⟨found, first, same⟩ := first?_of_start common more present
    simp only [functionHead?, first, same]
  | assigned =>
    obtain ⟨way, present⟩ := exists_assignedFunction word rest
    have common : ∀ (value : Unit) (stop : Cursor), (value, stop) ∈ assignedFunction (Pattern.text word.text)
        (.after [] (Binding.assigned.heading word.text ++ '(' :: rest)) → stop.rest = rest :=
      fun _ _ found => assignedFunction_front found
    obtain ⟨found, first, same⟩ := first?_of_start common more present
    have missing := unnamed rfl
    rw [named_iff, Option.isSome_iff_ne_none, Classical.not_not] at missing
    simp only [functionHead?, missing, first, Option.map_some, same]

end heads
section names
variable {word : Word} {script left right params gap body behind : Text} {binding : Binding}

theorem Defines.exists_bracket {word text : Text} (defines : Defines word binding text behind) :
    ∃ front, text = front ++ '(' :: behind := by
  cases defines with
  | @named gap gapBehind => exact ⟨"function".toList ++ (gap ++ (word ++ gapBehind)), by simp⟩
  | @assigned gap gapBehind gapOpening =>
    exact ⟨word ++ (gap ++ ("=".toList ++ (gapBehind ++ ("function".toList ++ gapOpening)))), by simp⟩

-- A head ends with an opening bracket, and an assignment is only taken where no definition is named.
theorem functionHead?_parts {word script : Text} (head : functionHead? word script = some (binding, behind)) :
    (∃ front, script = front ++ '(' :: behind) ∧ (binding = .assigned → ¬ Named word script) := by
  cases named : (namedFunction (Pattern.text word)).first? script with
  | some found =>
    simp only [functionHead?, named, Option.some.injEq, Prod.mk.injEq] at head
    obtain ⟨rfl, rfl⟩ := head
    obtain ⟨passed, _, rfl, first, -⟩ := first?_parts named
    obtain ⟨opening, _, rfl, -, defines⟩ := defines_of_named (List.mem_of_head? first)
    obtain ⟨front, rfl⟩ := defines.exists_bracket
    exact ⟨⟨passed ++ (opening ++ front), by simp⟩, fun same => by cases same⟩
  | none =>
    simp only [functionHead?, named, Option.map_eq_some_iff, Prod.mk.injEq] at head
    obtain ⟨found, assigned, rfl, rfl⟩ := head
    obtain ⟨passed, _, rfl, first, -⟩ := first?_parts assigned
    obtain ⟨opening, _, rfl, -, defines⟩ := defines_of_assigned (List.mem_of_head? first)
    obtain ⟨front, rfl⟩ := defines.exists_bracket
    refine ⟨⟨passed ++ (opening ++ front), by simp⟩, fun _ there => ?_⟩
    rw [named_iff, named] at there
    cases there

-- Without a blank before it no definition ends at the bracket.
theorem Named.behind_bracket (named : Named word.text (left ++ '(' :: right))
    (solid : ∀ c ∈ left, Text.isBlank c = false) (front : Text) : Named word.text (front ++ '(' :: right) := by
  obtain ⟨read, rest, behind, split, free, named⟩ := named
  obtain ⟨heading, rfl, apart, ⟨blank, present, isBlank⟩, -⟩ := exists_heading named
  have same : read ++ ('f' :: heading ++ '(' :: behind) = left ++ '(' :: right := split.symm
  rcases Text.beside (apart '(' rfl rfl) same with ⟨more, rfl⟩ | ⟨more, rfl⟩
  · rw [solid blank (by simp [present])] at isBlank
    cases isBlank
  · obtain rfl : right = more ++ ('f' :: (heading ++ '(' :: behind)) := by simpa using same.symm
    exact .of_behind free named front

-- A definition in the declaration of an assigned function stands in its parameters or in its body, and so in the
-- script, too.
theorem named_of_declaration
    (named : Named word.text (Binding.assigned.declaration word.text params body)) (left gap behind : Text) :
    Named word.text (left ++ '(' :: (params ++ ')' :: (gap ++ '{' :: (body ++ '}' :: behind)))) := by
  have text : Binding.assigned.declaration word.text params body = ("var ".toList ++ word.text) ++ '=' ::
      ("function".toList ++ '(' :: (params ++ ')' :: '{' :: (body ++ '}' :: [';']))) := by
    have sign : "=function".toList = '=' :: "function".toList := rfl
    rw [declaration_parts]
    unfold Binding.heading Binding.ending
    simp only [sign, List.append_assoc, List.cons_append]
  have keyword : '(' ∉ "var ".toList ++ word.text := by
    rw [List.mem_append, not_or]
    exact ⟨by decide, not_mem_of_all word.plain rfl⟩
  have solid : ∀ c ∈ '=' :: "function".toList, Text.isBlank c = false := outside_of_any rfl
  rw [text] at named
  rcases named.beside rfl rfl (by decide) with inHeading | behindSign
  · have bracket := (inHeading []).mem.2
    rw [List.append_nil] at bracket
    exact absurd bracket keyword
  have inBrackets := (behindSign []).behind_bracket solid left
  rw [List.append_cons, ← List.append_assoc] at inBrackets
  rcases inBrackets.beside rfl rfl (by decide) with inParams | behindParams
  · simpa using inParams (')' :: (gap ++ '{' :: (body ++ '}' :: behind)))
  have betweenBrackets : Named word.text ([')'] ++ '{' :: (body ++ '}' :: [';'])) := behindParams []
  rcases betweenBrackets.beside rfl rfl (by decide) with between | behindBrace
  · exact absurd (between []).mem.2 (by decide)
  have inBraces := behindBrace (left ++ '(' :: (params ++ ')' :: gap))
  rw [List.append_cons, ← List.append_assoc] at inBraces
  rcases inBraces.beside rfl rfl (by decide) with inBody | ending
  · simpa using inBody ('}' :: behind)
  · exact absurd (ending []).mem.2 (by decide)

end names

-- A function is its own declaration's function, if a brace closes its body.
theorem function?_declaration {word : Word} {script : Text} {function : Function}
    (found : function? word.text script = some function) (closed : ClosedByBrace word.text script) :
    function? word.text function.declaration = some function := by
  obtain ⟨binding, params, gap, body, behind, head, bracket, partners, rfl⟩ := closed.parts found
  obtain ⟨⟨left, rfl⟩, unnamed⟩ := functionHead?_parts head
  have unnamedHere : binding = .assigned → ¬ Named word.text (binding.declaration word.text params body) := by
    rintro rfl named
    exact unnamed rfl (named_of_declaration named left gap behind)
  have noSlash : '/' ∉ binding.ending := by cases binding <;> decide
  have ends := bodyOf?_of_closes (partners_iff.mp (partners.replace noSlash))
  rw [declaration_parts] at unnamedHere
  rw [← function?_of_bodyOf? (functionHead?_heading binding unnamedHere) bracket ends, ← declaration_parts]

section reassigned

-- The name is assigned again inside, and a slash follows the closing brace.
def reassigningBody : Text := "Wx=function(c)\x7breturn c\x7d;var t=/[/\x7d]\\//;return'\x7d'+a/2".toList

def reassigning : Text := "a.Wx=1;let Wx = function ( a , b)\n\x7b".toList ++ (reassigningBody ++ "\x7d/b/;".toList)

def reassigningFunction : Function :=
  ⟨shortWord.text, ["a".toList, "b".toList], reassigningBody,
    Binding.assigned.declaration shortWord.text " a , b".toList reassigningBody⟩

theorem function?_declaration_reassigning : function? shortWord.text reassigning = some reassigningFunction ∧
    ClosedByBrace shortWord.text reassigning ∧
      function? shortWord.text reassigningFunction.declaration = some reassigningFunction := by
  have found : function? shortWord.text reassigning = some reassigningFunction := by decide
  have closed : ClosedByBrace shortWord.text reassigning := by decide
  exact ⟨found, closed, function?_declaration found closed⟩

end reassigned
end StreamLinks.Script
