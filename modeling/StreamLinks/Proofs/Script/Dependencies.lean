import StreamLinks.Proofs.Script.References
/-!
The helpers that a function needs.

Of the names that a body reads, those stay that the function neither binds nor may use undeclared, each
once, and of these the ones that the script declares are returned with their declarations.
-/
namespace StreamLinks.Script
open Pattern

section locals

-- What stands before a name that is declared: a keyword and blanks, or a comma.
inductive Declaring : Text → Prop where
  | keyword {keyword gap : Text} (known : keyword ∈ ["var".toList, "let".toList, "const".toList])
      (apart : Gap gap) (filled : gap ≠ []) : Declaring (keyword ++ gap)
  | comma {gap : Text} (apart : Gap gap) : Declaring (",".toList ++ gap)

-- The body declares the word somewhere.
def DeclaredIn (word : Word) (body : Text) : Prop := ∃ before opening gap after,
  body = before ++ (opening ++ (word.text ++ (gap ++ '=' :: after))) ∧ Declaring opening ∧ Gap gap

variable {read rest body : Text} {way : Text × Cursor} {word known : Word}

theorem mem_localDeclaration : way ∈ localDeclaration (.after read rest) ↔ ∃ opening word gap after,
    rest = opening ++ (Word.text word ++ (gap ++ '=' :: after)) ∧ Declaring opening ∧ Gap gap ∧
      way = (word.text, .after (read ++ (opening ++ (word.text ++ (gap ++ ['='])))) after) := by
  simp only [localDeclaration, either_then, declarator_then, bind_then, literal_then, blanks_then, name_then,
    mem_pure]
  constructor
  · rintro (⟨keyword, gap, _, rfl, known, apart, filled, word, _, spans, named, behind, _, spansBehind, after,
      rfl, rfl⟩ | ⟨_, rfl, gap, _, spansGap, word, _, spans, named, behind, _, spansBehind, after, rfl, rfl⟩)
    · obtain ⟨word, rfl⟩ := exists_word spans named
      rw [spans.split, spansBehind.split]
      exact ⟨keyword ++ gap, word, behind, after, by simp,
        .keyword known apart (List.length_pos_iff.mp filled), spansBehind.inside, by simp⟩
    · obtain ⟨word, rfl⟩ := exists_word spans named
      rw [spansGap.split, spans.split, spansBehind.split]
      exact ⟨",".toList ++ gap, word, behind, after, by simp, .comma spansGap.inside, spansBehind.inside,
        by simp⟩
  · rintro ⟨_, word, behind, after, rfl, declaring, apartBehind, rfl⟩
    have ends : Spans isNameChar word.text (behind ++ ("=".toList ++ after))
        (word.text ++ (behind ++ ("=".toList ++ after))) := ⟨rfl, word.plain, outside_of_gap apartBehind rfl _⟩
    cases declaring with
    | @keyword keyword gap known apart filled =>
      exact .inl ⟨keyword, gap, _, rfl, known, apart, List.length_pos_iff.mpr filled, word.text, _, ends,
        word.length_pos, behind, _, .of_mark apartBehind rfl _, after, rfl, by simp⟩
    | @comma gap apart =>
      rw [List.append_assoc]
      exact .inr ⟨_, rfl, gap, _, ⟨rfl, apart, word.blank_outside _⟩, word.text, _, ends, word.length_pos, behind, _,
        .of_mark apartBehind rfl _, after, rfl, by simp⟩

theorem gap_unique {gap other tail behind : Text} (apart : Gap gap) (apartOther : Gap other)
    (same : gap ++ (word.text ++ tail) = other ++ (known.text ++ behind)) :
    gap = other ∧ word.text ++ tail = known.text ++ behind := by
  have here : Spans Text.isBlank gap (word.text ++ tail) (gap ++ (word.text ++ tail)) :=
    ⟨rfl, apart, word.blank_outside tail⟩
  exact here.unique ⟨same, apartOther, known.blank_outside behind⟩

theorem isNameChar_of_keyword {keyword : Text} (known : keyword ∈ ["var".toList, "let".toList, "const".toList]) :
    ∀ c ∈ keyword, isNameChar c = true := by
  simp only [List.mem_cons, List.not_mem_nil, or_false] at known
  rcases known with rfl | rfl | rfl <;> exact List.all_eq_true.mp rfl

-- A keyword ends with the blanks behind it, and no keyword begins with a comma.
theorem Declaring.unique {opening other tail behind : Text} (here : Declaring opening)
    (there : Declaring other) (same : opening ++ (word.text ++ tail) = other ++ (known.text ++ behind)) :
    opening = other ∧ word.text ++ tail = known.text ++ behind := by
  have ends {gap : Text} (apart : Gap gap) (filled : gap ≠ []) (rest : Text) :
      ∀ c ∈ (gap ++ rest).head?, isNameChar c = false :=
    outside_of_head filled (fun c present => isNameChar_of_isBlank (apart c present)) rest
  have noComma {keyword rest other : Text} (known : keyword ∈ ["var".toList, "let".toList, "const".toList]) :
      keyword ++ rest ≠ ',' :: other := by
    simp only [List.mem_cons, List.not_mem_nil, or_false] at known
    rcases known with rfl | rfl | rfl <;> exact fun split => by cases split
  cases here with
  | keyword knownHere apart filled =>
    cases there with
    | keyword knownThere apartThere filledThere =>
      simp only [List.append_assoc] at same
      have spans := Spans.mk rfl (isNameChar_of_keyword knownHere) (ends apart filled (word.text ++ tail))
      obtain ⟨rfl, gaps⟩ := spans.unique
        ⟨same, isNameChar_of_keyword knownThere, ends apartThere filledThere (known.text ++ behind)⟩
      obtain ⟨rfl, words⟩ := gap_unique apart apartThere gaps
      exact ⟨rfl, words⟩
    | comma apartThere =>
      rw [List.append_assoc, List.append_assoc] at same
      exact absurd same (noComma knownHere)
  | comma apart =>
    cases there with
    | keyword knownThere apartThere filledThere =>
      rw [List.append_assoc, List.append_assoc] at same
      exact absurd same.symm (noComma knownThere)
    | comma apartThere =>
      obtain ⟨rfl, words⟩ := gap_unique apart apartThere (List.cons.inj same).2
      exact ⟨rfl, words⟩

theorem mem_everywhere_localDeclaration {name : Text} :
    name ∈ (everywhere localDeclaration body).map (·.value) ↔ ∃ word : Word, name = word.text ∧ DeclaredIn word body := by
  rw [List.mem_map]
  constructor
  · rintro ⟨found, present, rfl⟩
    obtain ⟨before, rest, rfl, -, way⟩ := way_of_mem_everywhere present
    obtain ⟨opening, word, gap, after, rfl, declaring, apart, same⟩ := mem_localDeclaration.mp way
    exact ⟨word, congrArg Prod.fst same, before, opening, gap, after, rfl, declaring, apart⟩
  · rintro ⟨word, rfl, before, opening, gap, after, rfl, declaring, apart⟩
    have present : _ ∈ localDeclaration (.after before _) :=
      mem_localDeclaration.mpr ⟨opening, word, gap, after, rfl, declaring, apart, rfl⟩
    refine ⟨_, mem_everywhere ?_ present ?_, rfl⟩
    · simp
    · intro way other
      obtain ⟨start, known, space, tail, same, declares, apartOther, rfl⟩ := mem_localDeclaration.mp other
      obtain ⟨rfl, words⟩ := declaring.unique declares same
      have ends {gap : Text} (apart : Gap gap) (rest : Text) :
          ∀ c ∈ (gap ++ ("=".toList ++ rest)).head?, isNameChar c = false := outside_of_gap apart rfl rest
      have spans := Spans.mk rfl word.plain (ends apart after)
      obtain ⟨named, gaps⟩ := spans.unique ⟨words, known.plain, ends apartOther tail⟩
      obtain rfl := Word.eq_of_text named
      obtain ⟨rfl, rest⟩ := (Spans.of_stop apart rfl after).unique (gaps ▸ Spans.of_stop apartOther rfl tail)
      obtain rfl := (List.cons.inj rest).2
      rfl

end locals

section occurrences
variable {α : Type} [BEq α]

def keepNew (kept : List α) (item : α) : List α := if kept.contains item then kept else kept ++ [item]

theorem firstOccurrences_eq (items : List α) : firstOccurrences items = items.foldl keepNew [] := rfl

variable [LawfulBEq α] {items kept : List α} {item first : α}

theorem mem_keepNew : item ∈ keepNew kept first ↔ item ∈ kept ∨ item = first := by
  unfold keepNew
  split
  · next known =>
    refine (or_iff_left_of_imp ?_).symm
    rintro rfl
    exact List.contains_iff_mem.mp known
  · rw [List.mem_append, List.mem_singleton]

theorem nodup_keepNew (nodup : kept.Nodup) (first : α) : (keepNew kept first).Nodup := by
  unfold keepNew
  split
  · exact nodup
  · next unknown =>
    rw [List.contains_iff_mem] at unknown
    refine List.nodup_append.mpr ⟨nodup, List.pairwise_singleton _ first, ?_⟩
    rintro item present _ here rfl
    obtain rfl := List.mem_singleton.mp here
    exact unknown present

theorem mem_foldl_keepNew : item ∈ items.foldl keepNew kept ↔ item ∈ kept ∨ item ∈ items := by
  induction items generalizing kept with
  | nil => simp
  | cons first items ih => rw [List.foldl_cons, ih, mem_keepNew, List.mem_cons, or_assoc]

theorem nodup_foldl_keepNew (nodup : kept.Nodup) (items : List α) : (items.foldl keepNew kept).Nodup := by
  induction items generalizing kept with
  | nil => exact nodup
  | cons first items ih => exact ih (nodup_keepNew nodup first)

theorem mem_firstOccurrences : item ∈ firstOccurrences items ↔ item ∈ items := by
  rw [firstOccurrences_eq, mem_foldl_keepNew]
  exact or_iff_right List.not_mem_nil

theorem nodup_firstOccurrences (items : List α) : (firstOccurrences items).Nodup :=
  nodup_foldl_keepNew .nil items

end occurrences

section dependencies
variable {function : Function} {word : Word} {name script : Text}

-- The function may not use the word without a declaration of it in the script.
structure Foreign (function : Function) (word : Word) : Prop where
  notItself : word.text ≠ function.name
  notParameter : word.text ∉ function.params
  notBuiltin : word.text ∉ builtins
  notNumeral : ∃ c ∈ word.text, c.isDigit = false
  notLocal : ¬ DeclaredIn word function.body

-- What the script declares the name as: the statement of a variable, else the function of this name.
def declaration? (name script : Text) : Option Text :=
  match (declaredVariables script).lookup name with
  | some place => statementFrom place
  | none =>
    if (functionNames script).contains name then (function? name script).map (·.declaration) else none

theorem mem_boundNames : word.text ∈ function.boundNames ↔
    word.text = function.name ∨ word.text ∈ function.params ∨ DeclaredIn word function.body := by
  rw [Function.boundNames, List.mem_append, List.mem_cons, or_assoc, mem_everywhere_localDeclaration]
  refine or_congr_right (or_congr_right ?_)
  constructor
  · rintro ⟨known, same, declared⟩
    exact Word.eq_of_text same ▸ declared
  · intro declared
    exact ⟨word, rfl, declared⟩

theorem foreign_iff : Foreign function word ↔ (!(function.boundNames ++ builtins).contains word.text &&
    !word.text.all Char.isDigit) = true := by
  rw [Bool.and_eq_true, Bool.not_eq_true', Bool.not_eq_true', ← Bool.not_eq_true, List.contains_iff_mem,
    List.mem_append, mem_boundNames, List.all_eq_false]
  constructor
  · rintro ⟨notItself, notParameter, notBuiltin, ⟨c, present, notDigit⟩, notLocal⟩
    refine ⟨?_, c, present, by simp [notDigit]⟩
    rintro ((same | parameter | declared) | builtin)
    · exact notItself same
    · exact notParameter parameter
    · exact notLocal declared
    · exact notBuiltin builtin
  · rintro ⟨unknown, c, present, notDigit⟩
    exact ⟨fun same => unknown (.inl (.inl same)), fun parameter => unknown (.inl (.inr (.inl parameter))),
      fun builtin => unknown (.inr builtin), ⟨c, present, by simpa using notDigit⟩,
      fun declared => unknown (.inl (.inr (.inr declared)))⟩

theorem mem_freeNames : name ∈ function.freeNames ↔ ∃ word : Word, name = word.text ∧
    (ReadByCall word function.body ∨ ReadByIndex word function.body) ∧ Foreign function word := by
  rw [Function.freeNames, mem_firstOccurrences, List.mem_filter, mem_referencedNames]
  constructor
  · rintro ⟨⟨word, rfl, read⟩, unknown⟩
    exact ⟨word, rfl, read, foreign_iff.mpr unknown⟩
  · rintro ⟨word, rfl, read, foreign⟩
    exact ⟨⟨word, rfl, read⟩, foreign_iff.mp foreign⟩

theorem names_dependencies (function : Function) (script : Text) : (dependencies function script).map (·.name) =
    function.freeNames.filter fun name => (declaration? name script).isSome := by
  show (function.freeNames.filterMap fun name => (declaration? name script).map fun code =>
    (⟨name, code⟩ : Dependency)).map (·.name) = _
  rw [List.map_filterMap, ← List.filterMap_eq_filter]
  congr 1
  funext name
  cases declared : declaration? name script <;> simp [Option.guard, declared]

-- Each name comes once, and a name that is read only behind an odd number of calls does not come.
theorem dependencies_exact (function : Function) (script : Text) :
    ((dependencies function script).map (·.name)).Nodup ∧
      ∀ name, name ∈ (dependencies function script).map (·.name) ↔ ∃ word : Word, name = word.text ∧
        (ReadByCall word function.body ∨ ReadByIndex word function.body) ∧ Foreign function word ∧
          (declaration? word.text script).isSome := by
  rw [names_dependencies]
  refine ⟨(nodup_firstOccurrences _).filter _, ?_⟩
  intro name
  rw [List.mem_filter, mem_freeNames]
  constructor
  · rintro ⟨⟨word, rfl, read, foreign⟩, declared⟩
    exact ⟨word, rfl, read, foreign, declared⟩
  · rintro ⟨word, rfl, read, foreign, declared⟩
    exact ⟨⟨word, rfl, read, foreign⟩, declared⟩

section nestedCalls

-- A member call that is the first argument of another one.
def nestedCalls : Text :=
  ("var A=\x7bf:function(x)\x7breturn x\x7d\x7d;var B=\x7bg:function(x)\x7breturn x\x7d\x7d;" ++
    "F=function(a)\x7breturn A.f(B.g(a))\x7d;").toList

def innerWord : Word := ⟨['B'], List.cons_ne_nil _ _, List.all_eq_true.mp rfl⟩

def methodWord : Word := ⟨['g'], List.cons_ne_nil _ _, List.all_eq_true.mp rfl⟩

theorem nestedCalls_missed : ∃ function before after, function? ['F'] nestedCalls = some function ∧
    function.body = before ++ (callOf innerWord methodWord ++ after) ∧ Free before ∧
      Foreign function innerWord ∧ (declaration? innerWord.text nestedCalls).isSome ∧
        innerWord.text ∉ (dependencies function nestedCalls).map (·.name) := by
  have characters : nestedCalls = _ := Text.toList_append rfl rfl
  have located : function? ['F'] nestedCalls = some ⟨['F'], [['a']], "return A.f(B.g(a))".toList,
      "var F=function(a)\x7breturn A.f(B.g(a))\x7d;".toList⟩ := by
    rw [characters]
    decide
  refine ⟨_, "return A.f(".toList, "a))".toList, located, by decide, ?_, ?_, ?_⟩
  · intro c present
    cases present
    rfl
  · exact foreign_iff.mpr (by decide)
  · rw [characters]
    decide

end nestedCalls

end dependencies
end StreamLinks.Script
