import StreamLinks.Proofs.Script.Braces
import StreamLinks.Proofs.Script.Word
import StreamLinks.Proofs.Search.Found
import StreamLinks.Proofs.Text.Splitting
import StreamLinks.Script.Definition
/-!
Where a script defines a function, and what is cut out there.

A definition is told by its characters alone: the name with the word "function" before or behind it. If
a script defines a name once, the function of this name has exactly the body that stands there, whatever
braces and quotes the literals in it hold.
-/
namespace StreamLinks.Script
open Pattern

-- No name and no member access runs into the place from what has been read.
def Free (read : Text) : Prop := ∀ c ∈ read.getLast?, isPathChar c = false

-- A text begins with a definition of the name; `behind` follows its opening bracket.
inductive Defines (word : Text) : Binding → (text behind : Text) → Prop where
  | named (apart : ∀ c ∈ gap, Text.isBlank c = true) (filled : gap ≠ [])
      (apartBehind : ∀ c ∈ gapBehind, Text.isBlank c = true) :
      Defines word .named ("function".toList ++ (gap ++ (word ++ (gapBehind ++
        ("(".toList ++ behind))))) behind
  | assigned (apart : ∀ c ∈ gap, Text.isBlank c = true)
      (apartBehind : ∀ c ∈ gapBehind, Text.isBlank c = true)
      (apartOpening : ∀ c ∈ gapOpening, Text.isBlank c = true) :
      Defines word .assigned (word ++ (gap ++ ("=".toList ++ (gapBehind ++ ("function".toList ++
        (gapOpening ++ ("(".toList ++ behind))))))) behind

section places
variable {script word read rest : Text}

theorem isPathChar_of_isBlank {c : Char} (blank : Text.isBlank c = true) : isPathChar c = false := by
  refine Bool.or_eq_false_iff.mpr ⟨isNameChar_of_isBlank blank, beq_eq_false_iff_ne.mpr ?_⟩
  rintro rfl
  cases blank

theorem Free.opens (free : Free read) :
    ∃ front opening, read = front ++ opening ∧ Opens isPathChar front opening := by
  rcases List.eq_nil_or_concat read with rfl | ⟨front, c, rfl⟩
  · exact ⟨[], [], rfl, .inl ⟨rfl, rfl⟩⟩
  · exact ⟨front, [c], List.concat_eq_append, .inr ⟨c, rfl, free c (by simp)⟩⟩

theorem defines_of_named {way : Unit × Cursor}
    (found : way ∈ namedFunction (text word) (.after read rest)) :
    ∃ opening tail, rest = opening ++ tail ∧ Free (read ++ opening) ∧
      Defines word .named tail way.2.rest := by
  simp only [namedFunction, bareStart_then, literal_then, blanksBeforeWord_then, text_then, blanks_then,
    mem_pure] at found
  obtain ⟨opening, _, split, opens, _, rfl, gap, _, rfl, apart, filled, _, rfl, gapBehind, _, spans, _,
    rfl, rfl⟩ := found
  refine ⟨opening, _, split, opens.getLast?, ?_⟩
  rw [spans.split]
  exact .named apart (List.length_pos_iff.mp filled) spans.inside

-- What follows the name tells that it is assigned a function.
theorem Defines.of_spans {gap gapBehind gapOpening after afterSign afterWord behind : Text}
    (spans : Spans Text.isBlank gap ("=".toList ++ afterSign) after)
    (spansBehind : Spans Text.isBlank gapBehind ("function".toList ++ afterWord) afterSign)
    (spansOpening : Spans Text.isBlank gapOpening ("(".toList ++ behind) afterWord) :
    Defines word .assigned (word ++ after) behind := by
  rw [spans.split, spansBehind.split, spansOpening.split]
  exact .assigned spans.inside spansBehind.inside spansOpening.inside

theorem defines_of_assigned {way : Unit × Cursor}
    (found : way ∈ assignedFunction (text word) (.after read rest)) :
    ∃ passed tail, rest = passed ++ tail ∧ Free (read ++ passed) ∧
      Defines word .assigned tail way.2.rest := by
  simp only [assignedFunction, bareStart_then, optional_then, declarator_then, text_then, blanks_then,
    literal_then, mem_pure] at found
  obtain ⟨opening, _, rfl, opens, found⟩ := found
  rcases found with ⟨keyword, space, _, rfl, -, blank, filled, after, rfl, found⟩ | ⟨after, rfl, found⟩
  · obtain ⟨_, _, spans, _, rfl, _, _, spansBehind, _, rfl, _, _, spansOpening, _, rfl, rfl⟩ := found
    refine ⟨opening ++ (keyword ++ space), word ++ after, by simp only [List.append_assoc], ?_,
      .of_spans spans spansBehind spansOpening⟩
    intro c present
    have more : space ≠ [] := List.length_pos_iff.mp filled
    have last : space.getLast? = some c := by
      simpa [List.getLast?_append, List.getLast?_eq_some_getLast more] using present
    exact isPathChar_of_isBlank (blank c (List.mem_of_getLast? last))
  · obtain ⟨_, _, spans, _, rfl, _, _, spansBehind, _, rfl, _, _, spansOpening, _, rfl, rfl⟩ := found
    exact ⟨opening, word ++ after, rfl, opens.getLast?, .of_spans spans spansBehind spansOpening⟩

-- What is assigned at a free place is found there.
theorem exists_assigned {text behind : Text} (free : Free read)
    (defines : Defines word .assigned text behind) :
    ∃ passed tail, read ++ text = passed ++ tail ∧ tail ≠ [] ∧
      ∃ way, way ∈ assignedFunction (Pattern.text word) (.after passed tail) := by
  obtain ⟨front, opening, rfl, opens⟩ := free.opens
  cases defines with
  | @assigned gap gapBehind gapOpening behind apart apartBehind apartOpening =>
    refine ⟨front, opening ++ (word ++ (gap ++ ("=".toList ++ (gapBehind ++ ("function".toList ++
      (gapOpening ++ ("(".toList ++ behind))))))), List.append_assoc _ _ _, by simp, ?_⟩
    simp only [assignedFunction, bareStart_then, optional_then, text_then, blanks_then, literal_then,
      mem_pure]
    exact ⟨_, opening, _, rfl, opens, .inr ⟨_, rfl, gap, _, .of_mark apart rfl _, _, rfl,
      gapBehind, _, .of_mark apartBehind rfl _, _, rfl, gapOpening, _, .of_mark apartOpening rfl _, _,
      rfl, rfl⟩⟩

-- The text defines the name somewhere with the word "function" before it.
def Named (word text : Text) : Prop :=
  ∃ read rest behind, text = read ++ rest ∧ Free read ∧ Defines word .named rest behind

theorem named_iff : Named word script ↔ ((namedFunction (Pattern.text word)).first? script).isSome = true := by
  constructor
  · rintro ⟨read, _, behind, rfl, free, named⟩
    obtain ⟨front, opening, rfl, opens⟩ := free.opens
    cases named with
    | @named gap gapBehind _ apart filled apartBehind =>
      have present : ∃ way, way ∈ namedFunction (Pattern.text word) (.after front (opening ++ ("function".toList ++
          (gap ++ (word ++ (gapBehind ++ ("(".toList ++ behind))))))) := by
        simp only [namedFunction, bareStart_then, literal_then, blanksBeforeWord_then, text_then, blanks_then,
          mem_pure]
        exact ⟨_, opening, _, rfl, opens, _, rfl, gap, _, rfl, apart, List.length_pos_iff.mpr filled, _, rfl,
          gapBehind, _, .of_mark apartBehind rfl _, _, rfl, rfl⟩
      obtain ⟨way, present⟩ := present
      rw [first?_eq_head?, List.append_assoc, List.isSome_head?]
      exact everywhere_ne_nil (by simp) present
  · intro found
    obtain ⟨first, found⟩ := Option.isSome_iff_exists.mp found
    rw [first?_eq_head?] at found
    obtain ⟨passed, tail, rfl, -, way⟩ := way_of_mem_everywhere (List.mem_of_head? found)
    obtain ⟨opening, rest, rfl, free, named⟩ := defines_of_named way
    exact ⟨passed ++ opening, rest, _, by rw [List.append_assoc], free, named⟩

-- The head of a function that the script only assigns, with what all assignments have in common.
theorem functionHead?_assigned {Common : Text → Prop}
    (unnamed : ∀ read text behind, script = read ++ text → Free read →
      ¬ Defines word .named text behind)
    (common : ∀ read text behind, script = read ++ text → Free read →
      Defines word .assigned text behind → Common behind)
    {text behind : Text} (split : script = read ++ text) (free : Free read)
    (defines : Defines word .assigned text behind) :
    ∃ behind, functionHead? word script = some (.assigned, behind) ∧ Common behind := by
  have missing : (namedFunction (Pattern.text word)).first? script = none := by
    rw [← Option.not_isSome_iff_eq_none, ← named_iff]
    rintro ⟨read, text, behind, split, free, named⟩
    exact unnamed read text behind split free named
  obtain ⟨passed, tail, same, more, way, present⟩ := exists_assigned free defines
  have agree : ∀ passed tail, script = passed ++ tail → ∀ value stop,
      (value, stop) ∈ assignedFunction (Pattern.text word) (.after passed tail) → Common stop.rest := by
    intro passed tail split value stop found
    obtain ⟨opening, after, rfl, free, assigned⟩ := defines_of_assigned found
    exact common _ _ _ (by rw [split, List.append_assoc]) free assigned
  obtain ⟨found, first, holds⟩ := first?_of_way agree (split.trans same) more present
  exact ⟨found.stop.rest, by simp only [functionHead?, missing, first, Option.map_some], holds⟩

end places

theorem bodyOf?_of_closes {body rest : Text}
    (closes : matchingBrace ('{' :: (body ++ '}' :: rest)) = some (body.length + 1)) :
    bodyOf? ('{' :: (body ++ '}' :: rest)) = some body := by
  simp only [bodyOf?, closes, Option.some_or, Option.map_some, List.take_succ_cons,
    List.take_left, List.drop_succ_cons, List.drop_zero]

theorem bodyOf?_body {body : Text} (nested : Body '{' body) (rest : Text) :
    bodyOf? ('{' :: (body ++ '}' :: rest)) = some body := bodyOf?_of_closes (matchingBrace_body nested rest)

-- What is cut out behind the head: parameters up to the first bracket, and a body.
theorem function?_of_bodyOf? {word script params fromBrace body : Text} {binding : Binding}
    (head : functionHead? word script = some (binding, params ++ ')' :: '{' :: fromBrace)) (closed : ')' ∉ params)
    (ends : bodyOf? ('{' :: fromBrace) = some body) :
    function? word script =
      some ⟨word, parametersOf params, body, binding.declaration word params body⟩ := by
  have behind : Text.cut ['{'] ('{' :: fromBrace) = some ([], fromBrace) :=
    Text.cut_piece List.not_mem_nil _
  simp only [function?, head, Option.bind_eq_bind, Option.bind_some, Text.cut_piece closed, behind,
    List.all_nil, Bool.not_true, Bool.false_eq_true, if_false, ends]
  rfl

theorem function?_of_head {word script params body rest : Text} {binding : Binding}
    (head : functionHead? word script =
      some (binding, params ++ ')' :: '{' :: (body ++ '}' :: rest)))
    (closed : ')' ∉ params) (nested : Body '{' body) :
    function? word script =
      some ⟨word, parametersOf params, body, binding.declaration word params body⟩ :=
  function?_of_bodyOf? head closed (bodyOf?_body nested rest)

-- The script defines the name where `before` ends, and nowhere else.
def DefinedOnlyAt (word before script : Text) : Prop :=
  ∀ binding read text behind, script = read ++ text → Free read →
    Defines word binding text behind → read = before

-- The first characters that a definition needs.
def opensDefinition (word text : Text) : Bool :=
  ("function".toList.isPrefixOf text && (text.drop "function".toList.length).head?.any Text.isBlank) ||
    (word.isPrefixOf text &&
      ((text.drop word.length).dropWhile Text.isBlank).head? == some '=')

theorem Defines.opens {word text behind : Text} {binding : Binding}
    (defines : Defines word binding text behind) : opensDefinition word text = true := by
  cases defines with
  | @named gap gapBehind behind apart filled apartBehind =>
    obtain ⟨c, gap, rfl⟩ := List.exists_cons_of_ne_nil filled
    have front := List.isPrefixOf_iff_prefix.mpr (List.prefix_append "function".toList
      (c :: gap ++ (word ++ (gapBehind ++ ("(".toList ++ behind)))))
    rw [opensDefinition, front, List.drop_left]
    simp [apart c List.mem_cons_self]
  | @assigned gap gapBehind gapOpening behind apart apartBehind apartOpening =>
    have front := List.isPrefixOf_iff_prefix.mpr (List.prefix_append word
      (gap ++ ("=".toList ++ (gapBehind ++ ("function".toList ++ (gapOpening ++ ("(".toList ++ behind)))))))
    rw [opensDefinition, front, List.drop_left, List.dropWhile_append_of_pos apart, Bool.true_and,
      Bool.or_eq_true]
    exact .inr rfl

theorem definedOnlyAt_of_places {word before rest : Text}
    (places : ∀ count ≤ (before ++ rest).length,
      opensDefinition word ((before ++ rest).drop count) = true → count = before.length) :
    DefinedOnlyAt word before (before ++ rest) := by
  intro binding read text behind split _ defines
  have same : read.length = before.length := by
    apply places
    · rw [split, List.length_append]
      omega
    · rw [split, List.drop_left]
      exact defines.opens
  exact (List.append_inj_left split same.symm).symm

def assignment (word : Word) (params body : Text) : Text :=
  word.text ++ "=function(".toList ++ params ++ ")\x7b".toList ++ body ++ "\x7d;".toList

section assignment
variable {word : Word} {params body after text behind : Text} {binding : Binding}

theorem assignment_append : assignment word params body ++ after =
    word.text ++ ("=".toList ++ ("function".toList ++ ("(".toList ++
      (params ++ ')' :: '{' :: (body ++ '}' :: ';' :: after))))) := by
  have head : "=function(".toList = "=".toList ++ ("function".toList ++ "(".toList) := rfl
  have opening : ")\x7b".toList = [')', '{'] := rfl
  have closing : "\x7d;".toList = ['}', ';'] := rfl
  rw [assignment, head, opening, closing]
  simp only [List.append_assoc, List.cons_append, List.nil_append]

theorem declaration_assigned :
    Binding.assigned.declaration word.text params body = "var ".toList ++ assignment word params body := by
  unfold Binding.declaration assignment
  simp only [List.append_assoc]

theorem rest_of_gap {gap mark rest other : Text} (apart : ∀ c ∈ gap, Text.isBlank c = true)
    (outside : mark.head?.map Text.isBlank = some false) (same : mark ++ other = gap ++ (mark ++ rest)) :
    other = rest := by
  have spans : Spans Text.isBlank gap (mark ++ rest) (mark ++ other) := by
    rw [same]
    exact .of_mark apart outside rest
  exact List.append_cancel_left (spans.read_mark outside).symm

-- An assignment defines its name in one way only.
theorem defines_assignment (defines : Defines word.text binding text behind)
    (same : assignment word params body ++ after = text) :
    binding = .assigned ∧ behind = params ++ ')' :: '{' :: (body ++ '}' :: ';' :: after) := by
  rw [assignment_append] at same
  cases defines with
  | @named gap gapBehind behind apart filled apartBehind =>
    -- The name would be the word "function", and then a blank would be an equals sign.
    obtain ⟨c, gap, rfl⟩ := List.exists_cons_of_ne_nil filled
    have blank := apart c List.mem_cons_self
    have outside := isNameChar_of_isBlank blank
    have keyword : ∀ c ∈ "function".toList, isNameChar c = true := List.all_eq_true.mp rfl
    have spans := Spans.of_stop keyword outside (gap ++ (word.text ++ (gapBehind ++
      ("(".toList ++ behind))))
    have read := spans
    rw [← List.cons_append, ← same] at read
    obtain ⟨-, stop⟩ := read.read word.plain rfl
    obtain rfl := (List.cons.inj stop).1
    cases blank
  | @assigned gap gapBehind gapOpening behind apart apartBehind apartOpening =>
    have afterName := List.append_cancel_left same
    have afterSign := rest_of_gap apart rfl afterName
    have afterKeyword := rest_of_gap apartBehind rfl afterSign
    exact ⟨rfl, (rest_of_gap apartOpening rfl afterKeyword).symm⟩

-- Whatever stands in the literals of the body, the function is what the assignment says.
theorem body_of_only_definition (word : Word) (params body before after : Text) (closed : ')' ∉ params)
    (nested : Body '{' body) (free : Free before)
    (only : DefinedOnlyAt word.text before (before ++ (assignment word params body ++ after))) :
    function? word.text (before ++ (assignment word params body ++ after)) =
      some ⟨word.text, parametersOf params, body, "var ".toList ++ assignment word params body⟩ := by
  have defines : Defines word.text .assigned (assignment word params body ++ after)
      (params ++ ')' :: '{' :: (body ++ '}' :: ';' :: after)) := by
    rw [assignment_append]
    exact .of_spans (.empty rfl _) (.empty rfl _) (.empty rfl _)
  have unnamed : ∀ read text behind, before ++ (assignment word params body ++ after) = read ++ text →
      Free read → ¬ Defines word.text .named text behind := by
    intro read text behind split freeHere named
    obtain rfl := only _ _ _ _ split freeHere named
    cases (defines_assignment named (List.append_cancel_left split)).1
  have assigned : ∀ read text behind, before ++ (assignment word params body ++ after) = read ++ text →
      Free read → Defines word.text .assigned text behind →
        behind = params ++ ')' :: '{' :: (body ++ '}' :: ';' :: after) := by
    intro read text behind split freeHere here
    obtain rfl := only _ _ _ _ split freeHere here
    exact (defines_assignment here (List.append_cancel_left split)).2
  obtain ⟨_, head, rfl⟩ := functionHead?_assigned unnamed assigned rfl free defines
  rw [function?_of_head head closed nested, declaration_assigned]

end assignment

section literals

-- Braces, quotes and slashes in literals, a block, and a slash that divides.
def intricateBody : Text := "var t=\"\x7d\x7b\";if(a)\x7bt=a.replace(/[/\x7d]\\//g,'\x7d')\x7dreturn t/2".toList

theorem intricateBody_nested : Body '{' intricateBody := by
  have parts : intricateBody = "var t=".toList ++ '"' :: ("\x7d\x7b".toList ++ '"' :: (";if(a)".toList ++
      '{' :: (("t=a.replace(".toList ++ '/' :: (('[' :: ("/\x7d".toList ++ ']' :: "\\/".toList)) ++ '/' ::
        ("g,".toList ++ '\'' :: ("\x7d".toList ++ '\'' :: (")".toList ++ []))))) ++ '}' ::
          ("return t".toList ++ '/' :: ("2".toList ++ []))))) := by decide
  rw [parts]
  refine .run rfl (.quoted rfl ?_ (.run rfl (.braces ?_ (.run rfl (.divide rfl (.run rfl .empty))))))
  · exact .plain (by decide) (by decide) (.plain (by decide) (by decide) .empty)
  · refine .run rfl (.literal rfl ?_ (.run rfl (.quoted rfl ?_ (.run rfl .empty))))
    · exact .cls (.plain (by decide) (.plain (by decide) .empty)) (.escape (by decide) .empty)
    · exact .plain (by decide) (by decide) .empty

def shortWord : Word := ⟨"Wx".toList, by decide, List.all_eq_true.mp rfl⟩

theorem body_of_only_definition_intricate :
    function? shortWord.text ("var q=1;".toList ++ (assignment shortWord "a,b".toList intricateBody ++
      "q=Wx(q)".toList)) =
        some ⟨shortWord.text, ["a".toList, "b".toList], intricateBody,
          "var ".toList ++ assignment shortWord "a,b".toList intricateBody⟩ := by
  have only : DefinedOnlyAt shortWord.text "var q=1;".toList ("var q=1;".toList ++
      (assignment shortWord "a,b".toList intricateBody ++ "q=Wx(q)".toList)) :=
    definedOnlyAt_of_places (by decide)
  have free : Free "var q=1;".toList := by
    intro c present
    cases present
    rfl
  exact body_of_only_definition shortWord _ _ _ _ (by decide) intricateBody_nested free only

end literals

end StreamLinks.Script
