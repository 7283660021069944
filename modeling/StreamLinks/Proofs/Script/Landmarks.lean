import StreamLinks.Proofs.Script.Simple
/-!
The landmarks of a simple script: its equals signs, ampersands, colons and blanks, with what stands
around each of them.

Names, numerals and the marks of calls are none of these, so however the names are chosen and however
many calls there are, the landmarks are the same.
-/
namespace StreamLinks.SimpleScript
open Script Transform Text

variable (simple : SimpleScript) (steps : List (Operation × Nat))
variable {cls : Char → Bool} {property : Text → Text → Prop}

theorem around_word (plain : ∀ c, isNameChar c = true → cls c = false) (word : Word) :
    Around cls property word.text :=
  around_of_none fun c present => plain c (word.plain c present)

theorem around_calls (plain : ∀ c, isNameChar c = true → cls c = false)
    (marks : ".(,);".toList.any cls = false) :
    Around cls property (steps.flatMap simple.call) := by
  apply around_of_none
  intro c present
  obtain ⟨step, -, here⟩ := List.mem_flatMap.mp present
  rcases mem_call here with inside | mark
  · exact plain c inside
  · exact outside_of_any marks c mark

theorem ne_of_isNameChar {mark : Char} (outside : isNameChar mark = false) (c : Char)
    (inside : isNameChar c = true) : (mark == c) = false := by
  rw [beq_eq_false_iff_ne]
  rintro rfl
  rw [inside] at outside
  cases outside

theorem around_mark_word (mark : Char) (outside : isNameChar mark = false) (word : Word) :
    Around (mark == ·) property word.text := around_word (ne_of_isNameChar outside) word

theorem around_mark_calls (mark : Char) (outside : isNameChar mark = false)
    (marks : ".(,);".toList.any (mark == ·) = false) :
    Around (mark == ·) property (steps.flatMap simple.call) :=
  simple.around_calls steps (ne_of_isNameChar outside) marks

theorem around_blank_word (word : Word) : Around isBlank property word.text :=
  around_word (fun _ => isBlank_of_isNameChar) word

theorem around_blank_calls : Around isBlank property (steps.flatMap simple.call) :=
  simple.around_calls steps (fun _ => isBlank_of_isNameChar) (by decide)

section equals

-- What stands before and from an equals sign.
inductive Assignment : Text → Text → Prop where
  | inside {before tail : Text} {c : Char} (first : c = 'a' ∨ c = 'c') :
      Assignment before ('=' :: c :: tail)
  | object {before tail : Text} :
      Assignment before ('=' :: ("\x7b".toList ++ (simple.helpers ++ ("\x7d;".toList ++ tail))))
  | function {before tail : Text} : Assignment before ('=' :: ("function".toList ++ ("(".toList ++
      ("a".toList ++ (")".toList ++ ("\x7b".toList ++ (simple.body steps ++ ("\x7d;".toList ++ tail))))))))
  | member {before tail : Text} (ends : ".T".toList <:+ before) :
      Assignment before ('=' :: 'f' :: tail)
  | call {before : Text} (ends : "(c".toList <:+ before) :
      Assignment before ('=' :: (simple.function.text ++ closing))

-- Behind an equals sign stands no blank.
theorem Assignment.next {simple : SimpleScript} {steps : List (Operation × Nat)} {before behind : Text}
    (assignment : simple.Assignment steps before ('=' :: behind)) :
    ∃ c tail, behind = c :: tail ∧ (isNameChar c = true ∨ c = '{') := by
  cases assignment with
  | inside first =>
    refine ⟨_, _, rfl, .inl ?_⟩
    rcases first with rfl | rfl <;> rfl
  | object => exact ⟨'{', _, rfl, .inr rfl⟩
  | function => exact ⟨'f', _, rfl, .inl rfl⟩
  | member => exact ⟨'f', _, rfl, .inl rfl⟩
  | call =>
    obtain ⟨c, rest, named⟩ := List.exists_cons_of_ne_nil simple.function.filled
    exact ⟨c, _, by rw [named]; rfl, .inl (simple.function.plain c (by simp [named]))⟩

theorem Assignment.no_gap {simple : SimpleScript} {steps : List (Operation × Nat)}
    {before behind gap after : Text} (assignment : simple.Assignment steps before ('=' :: behind))
    (spans : Spans isBlank gap after behind) : after = behind := by
  obtain ⟨c, tail, rfl, known⟩ := assignment.next
  have outside : isBlank c = false := by
    rcases known with inside | rfl
    · exact isBlank_of_isNameChar inside
    · rfl
  exact (spans.unique (.nil outside tail)).2

theorem around_helpers_equals
    (inside : ∀ before c tail, c = 'a' ∨ c = 'c' → property before ('=' :: c :: tail)) :
    Around ('=' == ·) property simple.helpers := by
  have swap : Operation.swap.body = "var c".toList ++ ("=".toList ++ ("a".toList ++
      ("[0];a[0]".toList ++ ("=".toList ++ ("a".toList ++ ("[b%a.length];a[b%a.length]".toList ++
        ("=".toList ++ "c".toList))))))) := rfl
  unfold helpers definition
  rw [swap]
  dsimp only [Operation.parameters, Operation.body]
  simp +decide only [around_append, around_mark_word '=' rfl, around_of_any, true_and, and_true]
  refine ⟨around_char '=' ?_, around_char '=' ?_, around_char '=' ?_⟩
  · exact inside _ 'a' _ (.inl rfl)
  · exact inside _ 'a' _ (.inl rfl)
  · exact inside _ 'c' _ (.inr rfl)

theorem around_body_equals
    (inside : ∀ before c tail, c = 'a' ∨ c = 'c' → property before ('=' :: c :: tail)) :
    Around ('=' == ·) property (simple.body steps) := by
  rw [body_eq]
  simp +decide only [around_append, simple.around_mark_calls steps '=' rfl (by decide),
    around_of_any, true_and, and_true]
  exact around_char '=' (inside _ 'a' _ (.inl rfl))

theorem around_equals : Around ('=' == ·) (simple.Assignment steps) (simple.script steps) := by
  unfold script
  rw [around_append, around_append]
  refine ⟨⟨?_, ?_⟩, ?_⟩
  · rw [objectLine_eq]
    simp +decide only [around_append, List.append_assoc, around_mark_word '=' rfl, around_of_any,
      true_and, and_true]
    refine ⟨?_, ?_⟩
    · exact around_char '=' .object
    · exact simple.around_helpers_equals fun _ _ _ first => .inside first
  · rw [functionLine_eq]
    simp +decide only [around_append, List.append_assoc, around_mark_word '=' rfl, around_of_any,
      true_and, and_true]
    refine ⟨?_, ?_⟩
    · exact around_char '=' .function
    · exact simple.around_body_equals steps fun _ _ _ first => .inside first
  · rw [callLine_eq]
    simp +decide only [around_append, List.append_assoc, around_mark_word '=' rfl, around_of_any,
      true_and, and_true]
    refine ⟨?_, ?_⟩
    · refine around_char '=' (.member ?_)
      iterate 3 refine List.suffix_append_of_suffix ?_
      exact ⟨[], rfl⟩
    · refine around_char '=' (.call ?_)
      iterate 8 refine List.suffix_append_of_suffix ?_
      exact ⟨"&&".toList, rfl⟩

end equals

section blanks

-- A blank stands behind a keyword or a semicolon.
def Separated (before : Text) : Prop :=
  ∃ ending ∈ ["var".toList, "return".toList, ";".toList], ending <:+ before

theorem Separated.append {before : Text} (separated : Separated before) (front : Text) :
    Separated (front ++ before) := by
  obtain ⟨ending, known, ends⟩ := separated
  exact ⟨ending, known, List.suffix_append_of_suffix ends⟩

theorem separated_var : Separated ("var".toList ++ []) := ⟨"var".toList, by decide, ⟨[], rfl⟩⟩

theorem separated_return : Separated ("return".toList ++ []) :=
  ⟨"return".toList, by decide, ⟨[], rfl⟩⟩

theorem separated_line : Separated ("\x7d;".toList ++ []) :=
  ⟨";".toList, by decide, ⟨"\x7d".toList, rfl⟩⟩

theorem separated_calls : Separated (";".toList ++ (steps.flatMap simple.call ++ [])) := by
  rcases List.eq_nil_or_concat steps with rfl | ⟨before, last, rfl⟩
  · exact ⟨";".toList, by decide, ⟨[], rfl⟩⟩
  · rw [List.concat_eq_append, List.flatMap_append, List.append_nil, List.flatMap_cons,
      List.flatMap_nil, List.append_nil]
    refine Separated.append (Separated.append (Separated.append ?_ _) _) _
    exact ⟨";".toList, by decide, ⟨")".toList, rfl⟩⟩

theorem around_helpers_blanks (separated : ∀ before behind, Separated before → property before behind) :
    Around isBlank property simple.helpers := by
  have swap : Operation.swap.body =
      "var".toList ++ (" ".toList ++ "c=a[0];a[0]=a[b%a.length];a[b%a.length]=c".toList) := rfl
  unfold helpers definition
  rw [swap]
  dsimp only [Operation.parameters, Operation.body]
  simp +decide only [around_append, List.append_assoc, around_blank_word, around_of_any, true_and,
    and_true]
  refine around_char ' ' (separated _ _ ?_)
  iterate 4 refine Separated.append ?_ _
  exact separated_var

theorem around_body_blanks (separated : ∀ before behind, Separated before → property before behind) :
    Around isBlank property (simple.body steps) := by
  rw [body_eq]
  simp +decide only [around_append, around_blank_calls, around_of_any, true_and, and_true]
  refine ⟨around_char ' ' (separated _ _ ?_), around_char ' ' (separated _ _ ?_)⟩
  · iterate 4 refine Separated.append ?_ _
    exact simple.separated_calls steps
  · iterate 7 refine Separated.append ?_ _
    exact separated_return

theorem around_blanks :
    Around isBlank (fun before _ => Separated before) (simple.script steps) := by
  unfold script
  rw [around_append, around_append]
  refine ⟨⟨?_, ?_⟩, ?_⟩
  · rw [objectLine_eq]
    simp +decide only [around_append, around_blank_word, around_of_any, true_and]
    refine ⟨around_char ' ' separated_var, ?_, around_char '\n' ?_⟩
    · exact simple.around_helpers_blanks fun before _ separated => by
        iterate 5 refine Separated.append ?_ _
        exact separated
    · iterate 6 refine Separated.append ?_ _
      exact separated_line
  · rw [functionLine_eq]
    simp +decide only [around_append, around_blank_word, around_of_any, true_and]
    refine ⟨?_, around_char '\n' ?_⟩
    · exact simple.around_body_blanks steps fun before _ separated => by
        iterate 8 refine Separated.append ?_ _
        exact separated
    · iterate 9 refine Separated.append ?_ _
      exact separated_line
  · rw [callLine_eq]
    unfold closing
    simp +decide only [around_append, List.append_assoc, around_blank_word, around_of_any,
      true_and, and_true]
    refine around_char ' ' ?_
    iterate 16 refine Separated.append ?_ _
    exact separated_return

end blanks

section ampersands

-- The ampersands guard the call of the function.
def Guarded (before behind : Text) : Prop :=
  ∀ tail, behind = "&&(".toList ++ tail → "\x7b".toList ++ "c".toList <:+ before ∧
    tail = "c".toList ++ ("=".toList ++ (simple.function.text ++ closing))

theorem around_ampersands : Around ('&' == ·) simple.Guarded (simple.script steps) := by
  unfold script
  rw [around_append, around_append]
  refine ⟨⟨?_, ?_⟩, ?_⟩
  · unfold objectLine helpers definition
    dsimp only [Operation.parameters, Operation.body]
    simp +decide only [around_append, around_mark_word '&' rfl, around_of_any, true_and]
  · unfold functionLine body
    simp +decide only [around_append, around_mark_word '&' rfl,
      simple.around_mark_calls steps '&' rfl (by decide), around_of_any, true_and]
  · rw [callLine_eq]
    simp +decide only [around_append, List.append_assoc, around_mark_word '&' rfl, around_of_any,
      true_and, and_true]
    show Around _ _ ('&' :: '&' :: "(".toList)
    rw [around_cons, around_cons]
    refine ⟨fun _ => ?_, fun _ => ?_, around_of_any (by decide)⟩
    · intro tail split
      refine ⟨?_, ?_⟩
      · iterate 6 refine List.suffix_append_of_suffix ?_
        exact ⟨[], rfl⟩
      · have same : "&&(".toList ++ ("c".toList ++ ("=".toList ++ (simple.function.text ++ closing))) =
            "&&(".toList ++ tail := split
        exact (List.append_cancel_left same).symm
    · intro tail split
      simp at split

end ampersands

section colons

-- What stands before and from a colon among the helpers: a name, and what it is defined as.
def Defines (operation : Operation) (before behind : Text) : Prop :=
  ∃ front rest, before = front ++ (simple.helper operation).text ∧
    (∀ c ∈ front.getLast?, isNameChar c = false) ∧
    behind = ":".toList ++ ("function".toList ++ ("(".toList ++ (operation.parameters ++
      (")".toList ++ ("\x7b".toList ++ (operation.body ++ ("\x7d".toList ++ rest)))))))

theorem around_definition_colons {operation : Operation} (here : ∀ behind,
      behind = ":".toList ++ ("function".toList ++ ("(".toList ++ (operation.parameters ++
        (")".toList ++ ("\x7b".toList ++ (operation.body ++ "\x7d".toList)))))) →
      property (simple.helper operation).text behind) :
    Around (':' == ·) property (simple.definition operation) := by
  have parameters : operation.parameters.any (':' == ·) = false := by cases operation <;> rfl
  have body : operation.body.any (':' == ·) = false := by cases operation <;> rfl
  rw [definition_eq]
  simp +decide only [around_append, around_mark_word ':' rfl, around_of_any parameters,
    around_of_any body,
    around_of_any, true_and, and_true]
  refine around_char ':' ?_
  rw [List.append_nil]
  exact here _ rfl

theorem around_colons :
    Around (':' == ·) (fun before behind => ∃ operation, simple.Defines operation before behind)
      simple.helpers := by
  unfold helpers
  simp +decide only [around_append, List.append_assoc, around_of_any, true_and]
  refine ⟨around_definition_colons simple ?_, around_definition_colons simple ?_,
    around_definition_colons simple ?_⟩
  · rintro behind rfl
    refine ⟨.swap, [], ",".toList ++ (simple.definition .splice ++ (",".toList ++
      simple.definition .reverse)), rfl, ?_, by simp only [List.append_assoc]⟩
    intro c present
    cases present
  · rintro behind rfl
    refine ⟨.splice, simple.definition .swap ++ ",".toList, ",".toList ++ simple.definition .reverse,
      by simp only [List.append_assoc], ?_, by simp only [List.append_assoc]⟩
    intro c present
    rw [List.getLast?_append] at present
    cases present
    rfl
  · rintro behind rfl
    refine ⟨.reverse, simple.definition .swap ++ (",".toList ++ (simple.definition .splice ++
      ",".toList)), [], by simp only [List.append_assoc], ?_,
      by simp only [List.append_nil]⟩
    intro c present
    rw [List.getLast?_append, List.getLast?_append, List.getLast?_append] at present
    cases present
    rfl

end colons
end StreamLinks.SimpleScript
