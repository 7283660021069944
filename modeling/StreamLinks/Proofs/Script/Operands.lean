import StreamLinks.Proofs.Script.Dependencies
import StreamLinks.Proofs.Text.Cutting
/-!
Pattern literals where an operand is expected.

A slash opens a literal behind one of a few characters and divides behind all others. So a body is cut out
whole behind those characters, whatever its literal holds. Behind a keyword or another operator the slash
divides, and a brace in the literal closes the body.
-/
namespace StreamLinks.Script
open Pattern

section front
variable {word : Word} {params body text rest behind : Text}

-- A name that an equals sign follows is no declarator.
theorem declarator_not_front {keyword gap tail : Text}
    (known : keyword ∈ ["var".toList, "let".toList, "const".toList]) (apart : Gap gap)
    (filled : 1 ≤ gap.length) : word.text ++ '=' :: rest ≠ keyword ++ (gap ++ tail) := by
  intro same
  have more := List.length_pos_iff.mp filled
  have blanks := outside_of_head more (fun c present => isNameChar_of_isBlank (apart c present)) tail
  have keywordSpans : Spans isNameChar keyword (gap ++ tail) (keyword ++ (gap ++ tail)) :=
    ⟨rfl, isNameChar_of_keyword known, blanks⟩
  obtain ⟨-, stop⟩ := (Spans.of_stop word.plain rfl rest).unique (same ▸ keywordSpans)
  obtain ⟨first, others, rfl⟩ := List.exists_cons_of_ne_nil more
  obtain rfl := (List.cons.inj stop).1
  cases apart _ List.mem_cons_self

-- At the start of an assignment nothing stands before the name.
theorem defines_of_front {way : Unit × Cursor} (split : text = word.text ++ '=' :: rest)
    (found : way ∈ assignedFunction (Pattern.text word.text) (.after [] text)) :
    Defines word.text .assigned text way.2.rest := by
  simp only [assignedFunction, bareStart_then, optional_then, declarator_then, text_then, blanks_then,
    literal_then, mem_pure] at found
  obtain ⟨opening, _, rfl, opens, found⟩ := found
  rcases opens with ⟨-, rfl⟩ | ⟨c, rfl, outside⟩
  · rcases found with ⟨keyword, gap, _, rfl, known, apart, filled, -⟩ | ⟨after, rfl, found⟩
    · rw [List.nil_append, List.append_assoc] at split
      exact absurd split.symm (declarator_not_front known apart filled)
    · obtain ⟨_, _, spans, _, rfl, _, _, spansBehind, _, rfl, _, _, spansOpening, _, rfl, rfl⟩ := found
      exact .of_spans spans spansBehind spansOpening
  · obtain ⟨first, others, named⟩ := List.exists_cons_of_ne_nil word.filled
    rw [named] at split
    obtain rfl := (List.cons.inj split).1
    have plain := word.plain c (by simp [named])
    simp [isPathChar, plain] at outside

theorem functionHead?_front (unnamed : ¬ Named word.text (assignment word params body)) :
    functionHead? word.text (assignment word params body) =
      some (.assigned, params ++ ')' :: '{' :: (body ++ '}' :: [';'])) := by
  have whole := @assignment_append word params body []
  rw [List.append_nil] at whole
  have common : ∀ value stop, (value, stop) ∈ assignedFunction (Pattern.text word.text)
      (.after [] (assignment word params body)) → stop.rest = params ++ ')' :: '{' :: (body ++ '}' :: [';']) := by
    intro value stop found
    exact (defines_assignment (defines_of_front whole found) (List.append_nil _)).2
  have more : assignment word params body ≠ [] := by simp [whole]
  have present : ∃ way, way ∈ assignedFunction (Pattern.text word.text)
      (.after [] (assignment word params body)) := by
    rw [whole]
    simp only [assignedFunction, bareStart_then, optional_then, text_then, blanks_then, literal_then, mem_pure]
    exact ⟨_, [], _, rfl, .inl ⟨rfl, rfl⟩, .inr ⟨_, rfl, [], _, .empty rfl _, _, rfl, [], _, .empty rfl _, _,
      rfl, [], _, .empty rfl _, _, rfl, rfl⟩⟩
  obtain ⟨way, present⟩ := present
  obtain ⟨found, first, rest⟩ := first?_of_start common more present
  rw [named_iff, Option.isSome_iff_ne_none, Classical.not_not] at unnamed
  simp only [functionHead?, unnamed, first, Option.map_some, rest]

-- What is cut out of an assignment, up to the brace that closes its body.
theorem function?_front {inner rest : Text} (unnamed : ¬ Named word.text (assignment word params body))
    (closed : ')' ∉ params) (nested : Body '{' inner) (split : body ++ '}' :: [';'] = inner ++ '}' :: rest) :
    function? word.text (assignment word params body) =
      some ⟨word.text, parametersOf params, inner, Binding.assigned.declaration word.text params inner⟩ := by
  have head := functionHead?_front unnamed
  rw [split] at head
  exact function?_of_head head closed nested

-- The parts that a function is cut out of.
theorem function?_parts {word script : Text} {function : Function} (found : function? word script = some function) :
    ∃ binding fromParams params behind gap fromBrace body,
      functionHead? word script = some (binding, fromParams) ∧
      Text.cut [')'] fromParams = some (params, behind) ∧ Text.cut ['{'] behind = some (gap, fromBrace) ∧
      Gap gap ∧ bodyOf? ('{' :: fromBrace) = some body ∧
      function = ⟨word, parametersOf params, body, binding.declaration word params body⟩ := by
  simp only [function?, Option.bind_eq_bind, Option.bind_eq_some_iff] at found
  obtain ⟨⟨binding, fromParams⟩, head, ⟨params, behind⟩, cutParams, ⟨gap, fromBrace⟩, cutBrace, found⟩ := found
  dsimp only at cutParams cutBrace found
  split at found
  · cases found
  · next apart =>
    obtain ⟨body, bodyFound, same⟩ := Option.bind_eq_some_iff.mp found
    cases same
    exact ⟨binding, fromParams, params, behind, gap, fromBrace, body, head, cutParams, cutBrace,
      by simpa [Gap] using apart, bodyFound, rfl⟩

-- A definition of this kind is preferred.
theorem declaration_of_named {word script : Text} {function : Function} (named : Named word script)
    (found : function? word script = some function) : function.declaration.head? = some 'f' := by
  obtain ⟨binding, fromParams, params, _, _, _, body, head, -, -, -, -, rfl⟩ := function?_parts found
  obtain ⟨first, there⟩ := Option.isSome_iff_exists.mp (named_iff.mp named)
  simp only [functionHead?, there, Option.some.injEq, Prod.mk.injEq] at head
  obtain ⟨rfl, -⟩ := head
  rfl

theorem parametersOf_word (parameter : Word) : parametersOf parameter.text = [parameter.text] := by
  have comma : ',' ∉ parameter.text := not_mem_of_all parameter.plain rfl
  have visible (c : Char) (present : c ∈ parameter.text) : Text.isBlank c = false :=
    isBlank_of_isNameChar (parameter.plain c present)
  have trimmed : Text.trim parameter.text = parameter.text := Text.trim_of_ends
    (fun c first => visible c (List.mem_of_mem_head? first)) (fun c last => visible c (List.mem_of_getLast? last))
  have filled : parameter.text.isEmpty = false := by simpa using parameter.filled
  simp [parametersOf, Text.splitAtChar_last comma, trimmed, filled]

end front

section opacity
variable {before words after : Text}

-- A body in which a literal stands, and the function with this body.
def bodyAround (before words after : Text) : Text := before ++ '/' :: (words ++ '/' :: after)

def wholeFunction (word parameter : Word) (body : Text) : Function :=
  ⟨word.text, [parameter.text], body, "var ".toList ++ assignment word parameter.text body⟩

theorem bodyAround_nested (opens : opensLiteral (before.foldl nearest '{') = true) (plain : before.all isPlain = true)
    (inside : LiteralText words) (plainAfter : after.all isPlain = true) : Body '{' (bodyAround before words after) := by
  have behind : Body '/' after := by simpa using Body.run plainAfter .empty
  exact .run plain (.literal opens inside behind)

-- What stands up to the opening bracket of a named definition, after its first character.
theorem exists_heading {word : Word} {rest behind : Text} (named : Defines word.text .named rest behind) :
    ∃ heading, rest = 'f' :: (heading ++ '(' :: behind) ∧
      (∀ c, isNameChar c = false → Text.isBlank c = false → c ∉ 'f' :: heading) ∧
        (∃ c ∈ heading, Text.isBlank c = true) ∧
          ∀ other, Defines word.text .named ('f' :: (heading ++ '(' :: other)) other := by
  cases named with
  | @named gap gapBehind behind apart filled apartBehind =>
    have keyword : ∀ c ∈ 'f' :: "unction".toList, isNameChar c = true := List.all_eq_true.mp rfl
    have whole (tail : Text) : 'f' :: ("unction".toList ++ (gap ++ (word.text ++ gapBehind)) ++ '(' :: tail) =
        "function".toList ++ (gap ++ (word.text ++ (gapBehind ++ ("(".toList ++ tail)))) := by simp
    refine ⟨"unction".toList ++ (gap ++ (word.text ++ gapBehind)), (whole behind).symm, ?_, ?_, ?_⟩
    · intro c outside visible present
      rw [← List.cons_append] at present
      simp only [List.mem_append] at present
      rcases present with inside | blank | inside | blank
      · exact Bool.false_ne_true (outside.symm.trans (keyword c inside))
      · exact Bool.false_ne_true (visible.symm.trans (apart c blank))
      · exact Bool.false_ne_true (outside.symm.trans (word.plain c inside))
      · exact Bool.false_ne_true (visible.symm.trans (apartBehind c blank))
    · obtain ⟨c, gap, rfl⟩ := List.exists_cons_of_ne_nil filled
      exact ⟨c, by simp, apart c List.mem_cons_self⟩
    · intro other
      rw [whole]
      exact .named apart filled apartBehind

section named
variable {word : Word} {sep : Char} {left right : Text}

theorem Named.of_behind {read rest behind : Text} (free : Free (left ++ sep :: read))
    (named : Defines word.text .named rest behind) (other : Text) :
    Named word.text (other ++ sep :: (read ++ rest)) := by
  refine ⟨other ++ sep :: read, rest, behind, by simp, ?_, named⟩
  simpa [Free, List.getLast?_append, List.getLast?_cons] using free

-- No definition reaches over a character that does not stand in its heading: the definition does not depend on what
-- is behind this character, or on what is before it.
theorem Named.beside (named : Named word.text (left ++ sep :: right)) (outside : isNameChar sep = false)
    (visible : Text.isBlank sep = false) (other : sep ≠ '(') :
    (∀ back, Named word.text (left ++ back)) ∨ ∀ front, Named word.text (front ++ sep :: right) := by
  obtain ⟨read, rest, behind, split, free, named⟩ := named
  obtain ⟨heading, rfl, apart, -, define⟩ := exists_heading named
  have absent : sep ∉ ('f' :: heading) ++ ['('] := by
    rw [List.mem_append, List.mem_singleton, not_or]
    exact ⟨apart sep outside visible, other⟩
  have same : read ++ (('f' :: heading) ++ ['('] ++ behind) = left ++ sep :: right := by simp [split]
  rcases Text.beside absent same with ⟨more, rfl⟩ | ⟨more, rfl⟩
  · exact .inl fun back => ⟨read, _, _, by simp, free, define (more ++ back)⟩
  · obtain rfl : right = more ++ ('f' :: (heading ++ '(' :: behind)) := by simpa using same.symm
    exact .inr fun front => .of_behind free named front

theorem Named.mem (named : Named word.text right) : 'f' ∈ right ∧ '(' ∈ right := by
  obtain ⟨read, rest, behind, rfl, -, named⟩ := named
  obtain ⟨heading, rfl, -⟩ := exists_heading named
  simp

-- A definition before the slash would stand in the text without what follows.
theorem not_named_slash {front back tail : Text} (unnamed : ¬ Named word.text (front ++ tail))
    (absent : 'f' ∉ back) : ¬ Named word.text (front ++ '/' :: back) := by
  intro named
  rcases named.beside rfl rfl (by decide) with before | behind
  · exact unnamed (before tail)
  · rcases List.mem_cons.mp (behind []).mem.1 with same | present
    · cases same
    · exact absent present

end named

-- A slash that divides leaves the brace behind it to close the body.
theorem function?_cut_short (word parameter : Word) (plain : before.all isPlain = true)
    (divides : opensLiteral (before.foldl nearest '{') = false)
    (unnamed : ¬ Named word.text (assignment word parameter.text (bodyAround before ('}' :: words) after))) :
    function? word.text (assignment word parameter.text (bodyAround before ('}' :: words) after)) =
      some (wholeFunction word parameter (before ++ ['/'])) := by
  have closed : ')' ∉ parameter.text := not_mem_of_all parameter.plain rfl
  have nested : Body '{' (before ++ ['/']) := .run plain (.divide divides .empty)
  have split : bodyAround before ('}' :: words) after ++ '}' :: [';'] =
      before ++ ['/'] ++ '}' :: (words ++ '/' :: (after ++ '}' :: [';'])) := by simp [bodyAround]
  rw [function?_front unnamed closed nested split, parametersOf_word, declaration_assigned]
  rfl

theorem function?_whole (word parameter : Word) (plain : before.all isPlain = true)
    (opens : opensLiteral (before.foldl nearest '{') = true) (inside : LiteralText words)
    (plainAfter : after.all isPlain = true)
    (unnamed : ¬ Named word.text (assignment word parameter.text (bodyAround before words after))) :
    function? word.text (assignment word parameter.text (bodyAround before words after)) =
      some (wholeFunction word parameter (bodyAround before words after)) := by
  have closed : ')' ∉ parameter.text := not_mem_of_all parameter.plain rfl
  have nested := bodyAround_nested opens plain inside plainAfter
  rw [function?_front unnamed closed nested rfl, parametersOf_word, declaration_assigned]
  rfl

-- All literals are passed over exactly behind those characters after which a slash opens one. There the
-- function is cut out whole unless its name is also defined with the word "function" before it.
theorem whole_iff_opensLiteral (word parameter : Word) (plain : before.all isPlain = true)
    (unnamed : ¬ Named word.text (assignment word parameter.text before)) :
    (∀ words after, LiteralText words → after.all isPlain = true →
      (function? word.text (assignment word parameter.text (bodyAround before words after)) =
          some (wholeFunction word parameter (bodyAround before words after)) ↔
        ¬ Named word.text (assignment word parameter.text (bodyAround before words after)))) ↔
      opensLiteral (before.foldl nearest '{') = true := by
  constructor
  · intro whole
    cases divides : opensLiteral (before.foldl nearest '{') with
    | true => rfl
    | false =>
      -- One literal is enough, that of a single closing brace.
      have text : assignment word parameter.text (bodyAround before ['}'] []) =
          word.text ++ "=function(".toList ++ parameter.text ++ ")\x7b".toList ++ before ++
            '/' :: "\x7d/\x7d;".toList := by
        simp [assignment, bodyAround]
      have unnamedHere : ¬ Named word.text (assignment word parameter.text (bodyAround before ['}'] [])) := by
        rw [text]
        exact not_named_slash unnamed (by decide)
      have short := function?_cut_short word parameter plain divides unnamedHere
      have full := (whole ['}'] [] (.plain (by decide) .empty) rfl).mpr unnamedHere
      rw [full] at short
      have bodies := congrArg List.length (Function.mk.inj (Option.some.inj short)).2.2.1
      simp [bodyAround] at bodies
  · intro opens words after inside plainAfter
    constructor
    · intro found named
      cases declaration_of_named named found
    · exact function?_whole word parameter plain opens inside plainAfter

section positions

def letterWord : Word := ⟨['a'], List.cons_ne_nil _ _, List.all_eq_true.mp rfl⟩

theorem whole_iff_opensLiteral_assigned : "var b=".toList.all isPlain = true ∧
    ¬ Named shortWord.text (assignment shortWord letterWord.text "var b=".toList) ∧
    ((∀ words after, LiteralText words → after.all isPlain = true →
      (function? shortWord.text (assignment shortWord letterWord.text (bodyAround "var b=".toList words after)) =
          some (wholeFunction shortWord letterWord (bodyAround "var b=".toList words after)) ↔
        ¬ Named shortWord.text (assignment shortWord letterWord.text (bodyAround "var b=".toList words after)))) ↔
      opensLiteral ("var b=".toList.foldl nearest '{') = true) := by
  have unnamed : ¬ Named shortWord.text (assignment shortWord letterWord.text "var b=".toList) := by
    rw [named_iff]
    decide
  exact ⟨rfl, unnamed, whole_iff_opensLiteral shortWord letterWord rfl unnamed⟩

-- Positions of operands behind keywords and behind operators.
def operandFronts : List Text :=
  ["return", "return typeof", "case", "return b in", "return void", "return 1+", "return 1-", "return 1*",
    "return 1%", "return 1<", "return 1>", "return 1^", "return~"].map String.toList

theorem literal_cut_short : LiteralText ['}'] ∧ ".test(a)".toList.all isPlain = true ∧
    ∀ before ∈ operandFronts, before.all isPlain = true ∧
      function? shortWord.text (assignment shortWord letterWord.text (bodyAround before ['}'] ".test(a)".toList)) =
        some (wholeFunction shortWord letterWord (before ++ ['/'])) :=
  ⟨.plain (by decide) .empty, rfl, by decide⟩

end positions

end opacity
end StreamLinks.Script
