import StreamLinks.Proofs.Script.Body
import StreamLinks.Proofs.Script.Nesting
import StreamLinks.Proofs.Script.Operands
import StreamLinks.Proofs.Script.Walk
/-!
Nesting in the declarations of helpers.

A function is cut out up to the partner of its opening brace, so its declaration is nested when the script is. The
statement of a variable ends at a semicolon. Where the last statement of a block has none, the search for it leaves
the block, and the declaration closes brackets that it does not open.
-/
namespace StreamLinks.Script
open Pattern

-- Apart from literals the text closes only what it opened, and leaves nothing open.
def SelfContained (text : Text) : Prop := Balanced (codeRow text)

instance : DecidablePred SelfContained := fun text => inferInstanceAs (Decidable (Balanced (codeRow text)))

-- The character opens no literal and is no bracket.
def isQuiet (c : Char) : Bool := isPlain c && (partner? c).isNone && !isClosing c

section rows
variable {row front text : List Char}

theorem isQuiet_cases {c : Char} (quiet : isQuiet c = true) :
    isPlain c = true ∧ partner? c = none ∧ isClosing c = false := by
  simpa [isQuiet, and_assoc] using quiet

theorem Balanced.quiet (quiet : ∀ c ∈ text, isQuiet c = true) (rest : Balanced row) : Balanced (text ++ row) := by
  induction text with
  | nil => exact rest
  | cons c text ih =>
    obtain ⟨-, opens, closes⟩ := isQuiet_cases (quiet c List.mem_cons_self)
    exact .other opens closes (ih fun d present => quiet d (List.mem_cons_of_mem c present))

theorem Paired.append (paired : Paired front) (rest : Paired row) : Paired (front ++ row) := by
  induction paired with
  | empty => exact rest
  | other opening closing _ ih => exact .other opening closing ih
  | @braces block front inside _ _ ih =>
    rw [List.cons_append, List.append_assoc, List.cons_append]
    exact .braces inside ih

-- Where brackets of all kinds are nested, braces are.
theorem Balanced.paired (balanced : Balanced row) : Paired row := by
  induction balanced with
  | empty => exact .empty
  | @other c row opens closes _ ih =>
    refine .other ?_ ?_ ih
    · rintro rfl
      cases opens
    · rintro rfl
      cases closes
  | @brackets opening closing block row pair _ _ insideIh restIh =>
    obtain ⟨rfl, rfl⟩ | ⟨rfl, rfl⟩ | ⟨rfl, rfl⟩ := partner?_cases pair
    · exact .braces insideIh restIh
    · exact .other (by decide) (by decide) (insideIh.append (.other (by decide) (by decide) restIh))
    · exact .other (by decide) (by decide) (insideIh.append (.other (by decide) (by decide) restIh))

end rows

section statements
variable {script text front rest : Text} {c : Char} {offset : Nat}

theorem isAsciiBlank_of_isNameChar (name : isNameChar c = true) : isAsciiBlank c = false := by
  rw [Bool.eq_false_iff]
  intro blank
  simp only [isAsciiBlank, Bool.or_eq_true, beq_iff_eq] at blank
  rcases blank with (((rfl | rfl) | rfl) | rfl) | rfl <;> cases name

theorem rowFrom_visible (plain : isPlain c = true) (visible : isAsciiBlank c = false) (before : Option Char) :
    rowFrom .code before (c :: rest) = c :: rowFrom .code (some c) rest := by
  rw [rowFrom_listed (isListed_of_isPlain plain before), seenBehind, visible]
  rfl

-- The characters outside literals up to the semicolon that is found.
theorem statementEnd_parts (ends : statementEnd text = some offset) : ∃ statement rest row behind,
    text = statement ++ ';' :: rest ∧ offset = statement.length ∧ codeRow text = row ++ ';' :: behind ∧
      codeRow (statement ++ [';']) = row ++ [';'] ∧ ∀ left, awaitedBehind [] row = some left → left = [] := by
  obtain ⟨listed, others, split, empty⟩ := closingSemicolon_split ends
  have present : (offset, ';') ∈ code text := split ▸ List.mem_append_right listed List.mem_cons_self
  obtain ⟨statement, rest, rfl, same⟩ := split_of_mem_codeFrom present
  obtain rfl : offset = 0 + statement.length := same
  obtain ⟨seen, cut⟩ := codeFrom_cut split
  refine ⟨statement, rest, listed.map (·.2), others.map (·.2), rfl, Nat.zero_add _, ?_, ?_,
    fun left => empty [] left rfl⟩
  · rw [codeRow, rowFrom, ← code, split, List.map_append]
    rfl
  · rw [codeRow, rowFrom, cut [] (.inr List.not_mem_nil), List.map_append, row_codeFrom]
    rfl

-- The statement of a variable that is declared outside literals.
theorem statement_nested_iff (nested : SelfContained (front ++ c :: rest)) (name : isNameChar c = true)
    (outside : (front.length, c) ∈ code (front ++ c :: rest)) (ends : statementEnd (c :: rest) = some offset) :
    SelfContained ((c :: rest).take (offset + 1)) ↔ ¬ LeavesBlock (codeRow ((c :: rest).take (offset + 1))) := by
  obtain ⟨before, seen, whole⟩ := exists_codeRow outside
  obtain ⟨statement, tail, row, behind, split, rfl, here, cut, closed⟩ := statementEnd_parts ends
  have text : (c :: rest).take (statement.length + 1) = statement ++ [';'] := by
    rw [split, List.append_cons]
    exact List.take_left' List.length_append
  have same : rowFrom .code seen (c :: rest) = codeRow (c :: rest) := by
    have plain := isPlain_of_isNameChar name
    have visible := isAsciiBlank_of_isNameChar name
    rw [codeRow, rowFrom_visible plain visible, rowFrom_visible plain visible]
  rw [text, SelfContained, cut]
  have passed : awaitedBehind [] (before ++ (row ++ [';'] ++ behind)) = some [] := by
    rw [List.append_assoc, List.singleton_append, ← here, ← same, ← whole]
    exact balanced_iff.mp nested
  obtain ⟨between, -, passed⟩ := exists_awaited passed
  refine balanced_part_iff passed fun others ends => ?_
  obtain ⟨inner, passedRow, last⟩ := exists_awaited ends
  obtain rfl := closed inner passedRow
  cases last
  rfl

end statements

section functions
variable {script word params gap fromBrace body front behind : Text} {binding : Binding} {function : Function}
  {block rest : List Char}

-- A nested block behind an opening brace is the body that is cut out, whatever follows its closing brace.
theorem rowFrom_body (ends : bodyOf? ('{' :: fromBrace) = some body)
    (split : rowFrom .code (some '{') fromBrace = block ++ '}' :: rest) (nested : Balanced block) {tail : Text}
    (noSlash : '/' ∉ tail) :
    rowFrom .code (some '{') (body ++ '}' :: tail) = block ++ '}' :: rowFrom .code (some '}') tail := by
  rw [← row_codeFrom .code (some '{') 1] at split
  obtain ⟨inside, _, listed, rfl, others⟩ := List.map_eq_append_iff.mp split
  obtain ⟨⟨offset, c⟩, behind, rfl, rfl, rfl⟩ := List.map_eq_cons_iff.mp others
  have closes : matchingBrace ('{' :: fromBrace) = some offset := by
    rw [matchingBrace_eq, closingBrace_eq_some_iff]
    exact ⟨inside, behind, listed, nested.paired⟩
  obtain ⟨inner, after, rfl, rfl, -⟩ := exists_partners closes
  obtain rfl : inner = body := Option.some.inj ((bodyOf?_of_closes closes).symm.trans ends)
  rw [Nat.add_comm] at listed
  obtain ⟨seen, cut⟩ := codeFrom_cut listed
  rw [← row_codeFrom .code (some '{') 1, cut tail (.inr noSlash), List.map_append, row_codeFrom, rowFrom_listed rfl]
  rfl

theorem isPlain_of_isBlank {c : Char} (blank : Text.isBlank c = true) : isPlain c = true := by
  have marks : "\"'\x60/\x7b\x7d".toList.any Text.isBlank = false := rfl
  rw [isPlain, Bool.not_eq_true', List.contains_eq_mem, decide_eq_false_iff_not]
  intro present
  exact List.any_eq_false.mp marks c present blank

theorem isQuiet_of_isNameChar {c : Char} (name : isNameChar c = true) : isQuiet c = true := by
  have opens : partner? c = none := by
    rw [Option.eq_none_iff_forall_ne_some]
    intro closing pair
    obtain ⟨rfl, -⟩ | ⟨rfl, -⟩ | ⟨rfl, -⟩ := partner?_cases pair <;> cases name
  have closes : isClosing c = false := by
    rw [Bool.eq_false_iff]
    intro closing
    obtain rfl | rfl | rfl := isClosing_iff.mp closing <;> cases name
  simp [isQuiet, isPlain_of_isNameChar name, opens, closes]

-- What stands before the opening bracket of the parameters in a declaration.
def Binding.heading (binding : Binding) (word : Text) : Text :=
  match binding with
  | .named => "function ".toList ++ word
  | .assigned => "var ".toList ++ (word ++ "=function".toList)

def Binding.ending : Binding → Text
  | .named => []
  | .assigned => [';']

theorem declaration_parts (binding : Binding) (word params body : Text) : binding.declaration word params body =
    binding.heading word ++ '(' :: (params ++ ')' :: '{' :: (body ++ '}' :: binding.ending)) := by
  have function : "=function(".toList = "=function".toList ++ ['('] := rfl
  have opening : ")\x7b".toList = [')', '{'] := rfl
  have closing : "\x7d;".toList = ['}', ';'] := rfl
  unfold Binding.declaration Binding.heading Binding.ending
  cases binding <;> simp only [function, opening, closing, List.append_assoc, List.cons_append, List.nil_append]

theorem quiet_heading (name : ∀ c ∈ word, isNameChar c = true) (binding : Binding) :
    ∀ c ∈ binding.heading word, isQuiet c = true := by
  have before : ∀ c ∈ "function var ".toList, isQuiet c = true := List.all_eq_true.mp rfl
  have behind : ∀ c ∈ "=function".toList, isQuiet c = true := List.all_eq_true.mp rfl
  have named (c : Char) (present : c ∈ word) : isQuiet c = true := isQuiet_of_isNameChar (name c present)
  intro c present
  cases binding with
  | named =>
    rcases List.mem_append.mp present with keyword | inside
    · exact before c (List.mem_append_left "var ".toList keyword)
    · exact named c inside
  | assigned =>
    rcases List.mem_append.mp present with keyword | inside
    · exact before c (List.mem_append_right "function ".toList keyword)
    · rcases List.mem_append.mp inside with inside | keyword
      · exact named c inside
      · exact behind c keyword

-- From the opening bracket of the parameters on, a nested script holds nothing but the brackets around them, and then
-- a brace with a nested block behind it.
theorem exists_bodyBlock (nested : SelfContained script)
    (split : script = front ++ '(' :: (params ++ ')' :: (gap ++ '{' :: fromBrace)))
    (outside : (front.length, '(') ∈ code script) (quiet : ∀ c ∈ params, isQuiet c = true) (apart : Gap gap) :
    ∃ block rest, rowFrom .code (some '{') fromBrace = block ++ '}' :: rest ∧ Balanced block := by
  subst split
  obtain ⟨before, seen, whole⟩ := exists_codeRow outside
  have between : ∀ c ∈ '(' :: (params ++ ')' :: gap), isPlain c = true := by
    intro c present
    simp only [List.mem_cons, List.mem_append] at present
    rcases present with rfl | inside | rfl | blank
    · rfl
    · exact (isQuiet_cases (quiet c inside)).1
    · rfl
    · exact isPlain_of_isBlank (apart c blank)
  have text : '(' :: (params ++ ')' :: (gap ++ '{' :: fromBrace)) =
      '(' :: (params ++ ')' :: gap) ++ '{' :: fromBrace := by
    simp
  have passed := balanced_iff.mp nested
  rw [whole, text, rowFrom_plain between, ← List.append_assoc] at passed
  obtain ⟨awaited, -, passed⟩ := exists_awaited passed
  rw [rowFrom_listed rfl, awaitedBehind_cons (passBracket_opening rfl)] at passed
  obtain ⟨block, rest, inside, balanced, -⟩ := exists_block _ _ passed (Nat.zero_le _)
  exact ⟨block, rest, inside, balanced⟩

-- A declaration with a nested block for its body is nested.
theorem declaration_selfContained (name : ∀ c ∈ word, isNameChar c = true)
    (quiet : ∀ c ∈ params, isQuiet c = true)
    (row : rowFrom .code (some '{') (body ++ '}' :: binding.ending) =
      block ++ '}' :: rowFrom .code (some '}') binding.ending)
    (nested : Balanced block) : SelfContained (binding.declaration word params body) := by
  have plainHeading (c : Char) (present : c ∈ binding.heading word) : isPlain c = true :=
    (isQuiet_cases (quiet_heading name binding c present)).1
  have plainParams (c : Char) (present : c ∈ params) : isPlain c = true := (isQuiet_cases (quiet c present)).1
  have opened (before : Option Char) : seenBehind before '{' = some '{' := rfl
  rw [SelfContained, codeRow, declaration_parts, rowFrom_plain plainHeading, rowFrom_listed rfl,
    rowFrom_plain plainParams, rowFrom_listed rfl, rowFrom_listed rfl, opened, row]
  refine .quiet (quiet_heading name binding) (.brackets rfl ?_ (.brackets rfl nested ?_))
  · simpa using Balanced.quiet quiet .empty
  · cases binding with
    | named => exact .empty
    | assigned => exact .other rfl rfl .empty

-- A function whose head stands outside literals is cut out of a nested script as a nested declaration.
theorem function_selfContained (nested : SelfContained script) (found : function? word script = some function)
    (name : ∀ c ∈ word, isNameChar c = true)
    (head : functionHead? word script = some (binding, params ++ ')' :: behind))
    (split : script = front ++ '(' :: (params ++ ')' :: behind)) (outside : (front.length, '(') ∈ code script)
    (quiet : ∀ c ∈ params, isQuiet c = true) : SelfContained function.declaration := by
  obtain ⟨_, _, _, _, gap, fromBrace, body, same, cutParams, cutBrace, apart, ends, rfl⟩ := function?_parts found
  rw [head] at same
  cases same
  have closed : ')' ∉ params := not_mem_of_all quiet rfl
  rw [Text.cut_piece closed] at cutParams
  cases cutParams
  obtain rfl := Text.cut_append cutBrace
  have text : gap ++ ['{'] ++ fromBrace = gap ++ '{' :: fromBrace := (List.append_cons _ _ _).symm
  obtain ⟨block, rest, inside, balanced⟩ := exists_bodyBlock nested (text ▸ split) outside quiet apart
  have noSlash : '/' ∉ binding.ending := by cases binding <;> decide
  exact declaration_selfContained name quiet (rowFrom_body ends inside balanced noSlash) balanced

end functions

section helpers
variable {script name : Text} {function : Function} {helper : Dependency} {place : Cursor}

-- The declaration that stands for a name stands outside literals: the declarator of a variable, or the head of a
-- function in whose parameters there are neither literals nor brackets.
inductive DeclaredOutside (name script : Text) : Prop where
  | declarator {place : Cursor} (declared : (declaredVariables script).lookup name = some place)
      (outside : place.offset ∈ (code script).map (·.1))
  | head {binding : Binding} {params front behind : Text}
      (undeclared : (declaredVariables script).lookup name = none)
      (head : functionHead? name script = some (binding, params ++ ')' :: behind))
      (split : script = front ++ '(' :: (params ++ ')' :: behind)) (outside : (front.length, '(') ∈ code script)
      (quiet : ∀ c ∈ params, isQuiet c = true)

theorem mem_dependencies : helper ∈ dependencies function script ↔
    helper.name ∈ function.freeNames ∧ declaration? helper.name script = some helper.code := by
  show helper ∈ (function.freeNames.filterMap fun name => (declaration? name script).map fun code =>
    (⟨name, code⟩ : Dependency)) ↔ _
  simp only [List.mem_filterMap, Option.map_eq_some_iff]
  constructor
  · rintro ⟨name, free, code, declared, rfl⟩
    exact ⟨free, declared⟩
  · rintro ⟨free, declared⟩
    exact ⟨helper.name, free, helper.code, declared, rfl⟩

-- A variable is declared at a keyword.
theorem exists_declarator (declared : (name, place) ∈ declaredVariables script) :
    ∃ front c rest, script = front ++ c :: rest ∧ place = .after front (c :: rest) ∧ isNameChar c = true := by
  obtain ⟨found, present, same⟩ := List.mem_map.mp declared
  obtain ⟨passed, tail, rfl, -, way⟩ := way_of_mem_everywhere present
  rw [same] at way
  obtain ⟨opening, rest, rfl, -, way⟩ := bareStart_then.mp way
  obtain ⟨⟨word, stop⟩, here, ends⟩ := List.mem_map.mp way
  obtain rfl : Cursor.after (passed ++ opening) rest = place := congrArg (·.1.2) ends
  obtain ⟨keyword, gap, tail, rfl, known, -, -, -⟩ := declarator_then.mp here
  have plain := isNameChar_of_keyword known
  obtain ⟨c, letters, rfl⟩ : ∃ c letters, keyword = c :: letters := by
    simp only [List.mem_cons, List.not_mem_nil, or_false] at known
    rcases known with rfl | rfl | rfl <;> exact ⟨_, _, rfl⟩
  exact ⟨passed ++ opening, c, letters ++ gap ++ tail, by simp, rfl, plain c List.mem_cons_self⟩

-- The keyword of a declarator that stands outside literals does so with its first letter.
theorem declarator_outside (declared : (declaredVariables script).lookup name = some place)
    (outside : place.offset ∈ (code script).map (·.1)) : ∃ front c rest, script = front ++ c :: rest ∧
      place = .after front (c :: rest) ∧ isNameChar c = true ∧ (front.length, c) ∈ code script := by
  obtain ⟨earlier, later, all, -⟩ := List.lookup_eq_some_iff.mp declared
  have here : (name, place) ∈ declaredVariables script := all ▸ List.mem_append_right earlier List.mem_cons_self
  obtain ⟨front, c, rest, rfl, rfl, first⟩ := exists_declarator here
  obtain ⟨⟨offset, d⟩, listed, same⟩ := List.mem_map.mp outside
  obtain rfl : offset = front.length := same
  obtain ⟨other, back, split, length⟩ := split_of_mem_codeFrom listed
  obtain ⟨-, behind⟩ := List.append_inj split (by simpa using length)
  obtain ⟨rfl, -⟩ := List.cons.inj behind
  exact ⟨front, c, rest, rfl, rfl, first, listed⟩

-- A declaration is nested unless it leaves the block in which it begins, and that of a function always is.
theorem selfContained_iff (nested : SelfContained script) (present : helper ∈ dependencies function script)
    (outside : DeclaredOutside helper.name script) :
    (SelfContained helper.code ↔ ¬ LeavesBlock (codeRow helper.code)) ∧
      ((declaredVariables script).lookup helper.name = none → SelfContained helper.code) := by
  obtain ⟨free, code⟩ := mem_dependencies.mp present
  obtain ⟨word, named, -, -⟩ := mem_freeNames.mp free
  cases outside with
  | @declarator place declared outside =>
    obtain ⟨front, c, rest, rfl, rfl, first, listed⟩ := declarator_outside declared outside
    rw [declaration?, declared] at code
    obtain ⟨offset, ends, text⟩ := Option.map_eq_some_iff.mp code
    rw [declared, ← text]
    exact ⟨statement_nested_iff nested first listed ends, fun undeclared => by cases undeclared⟩
  | head undeclared head split outside quiet =>
    simp only [declaration?, undeclared] at code
    split at code
    · obtain ⟨found, located, text⟩ := Option.map_eq_some_iff.mp code
      rw [named] at located head
      have whole := function_selfContained nested located word.plain head split outside quiet
      rw [text] at whole
      exact ⟨iff_of_true whole whole.stays, fun _ => whole⟩
    · cases code

section blocks

-- The last statement of a block, with a semicolon and without one.
def endedBlock : Text := "(function()\x7bvar X=[1];\x7d)();F=function(a)\x7breturn X.f(a)\x7d;".toList

def openBlock : Text := "(function()\x7bvar X=[1]\x7d)();F=function(a)\x7breturn X.f(a)\x7d;".toList

def blockReader : Function :=
  ⟨['F'], [['a']], "return X.f(a)".toList, "var F=function(a)\x7breturn X.f(a)\x7d;".toList⟩

def endedHelper : Dependency := ⟨['X'], "var X=[1];".toList⟩

def openHelper : Dependency := ⟨['X'], "var X=[1]\x7d)();".toList⟩

theorem selfContained_iff_ended : SelfContained endedBlock ∧ endedHelper ∈ dependencies blockReader endedBlock ∧
    DeclaredOutside endedHelper.name endedBlock ∧
      (SelfContained endedHelper.code ↔ ¬ LeavesBlock (codeRow endedHelper.code)) ∧
        ((declaredVariables endedBlock).lookup endedHelper.name = none → SelfContained endedHelper.code) := by
  have nested : SelfContained endedBlock := by decide
  have present : endedHelper ∈ dependencies blockReader endedBlock := by decide
  have declared : (declaredVariables endedBlock).lookup ['X'] =
      some (.after (endedBlock.take 12) (endedBlock.drop 12)) := by decide
  have outside : DeclaredOutside endedHelper.name endedBlock := .declarator declared (by decide)
  exact ⟨nested, present, outside, selfContained_iff nested present outside⟩

theorem openBlock_left : SelfContained openBlock ∧ function? ['F'] openBlock = some blockReader ∧
    matchingBrace "\x7breturn X.f(a)\x7d;".toList = some (blockReader.body.length + 1) ∧
      openHelper ∈ dependencies blockReader openBlock ∧ ¬ SelfContained openHelper.code := by
  decide

end blocks

end helpers
end StreamLinks.Script
