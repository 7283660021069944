import StreamLinks.Proofs.Script.Definition
import StreamLinks.Proofs.Script.Landmarks
import StreamLinks.Script.Transform
/-!
What is cut out of a simple script: its function, with the body that calls the helpers.

No other place of the script passes for a call or a definition of the function, though the names may
coincide with words of the script.
-/
namespace StreamLinks.SimpleScript
open Script Transform Pattern

variable (simple : SimpleScript) (steps : List (Operation × Nat))

-- Every decoded call in the script is that of the function.
theorem decodedCall_value {passed tail : Text} (split : simple.script steps = passed ++ tail)
    {value : (Text × Text × Text) × Text} {stop : Cursor}
    (found : (value, stop) ∈ decodedCall (.after passed tail)) :
    value = (("c".toList, "c".toList, "c".toList), simple.function.text) := by
  have letter : ∀ c ∈ "c".toList, isNameChar c = true := List.all_eq_true.mp rfl
  simp only [decodedCall, nameStart_then, name_then, literal_then, taken_atLeast_every_then,
    mem_pure] at found
  obtain ⟨opening, _, rfl, opens, guarded, _, guardedSpans, -, tail, rfl, found⟩ := found
  obtain ⟨target, _, targetSpans, -, _, rfl, found⟩ := found
  obtain ⟨function, _, functionSpans, -, _, rfl, found⟩ := found
  obtain ⟨argument, _, argumentSpans, -, _, rfl, found⟩ := found
  have parted : simple.script steps = (passed ++ opening ++ guarded) ++ ("&&(".toList ++ tail) := by
    rw [split, guardedSpans.split]
    simp only [List.append_assoc]
  obtain ⟨⟨front, ends⟩, rfl⟩ := simple.around_ampersands steps _ '&' _ parted rfl tail rfl
  obtain rfl : guarded = "c".toList := by
    have same : passed ++ opening ++ guarded = front ++ "\x7b".toList ++ "c".toList := by
      rw [← ends, List.append_assoc]
    refine (Spans.unique_end same guardedSpans.inside opens.getLast? letter ?_).2
    intro c present
    rw [List.getLast?_append] at present
    cases present
    rfl
  obtain ⟨rfl, afterTarget⟩ := targetSpans.read letter rfl
  obtain rfl := List.append_cancel_left afterTarget
  obtain ⟨rfl, afterFunction⟩ := functionSpans.read simple.function.plain rfl
  obtain rfl := List.append_cancel_left afterFunction
  obtain ⟨rfl, -⟩ := argumentSpans.read letter rfl
  exact (Prod.mk.inj found).1

theorem exists_decodedCall : ∃ passed tail, simple.script steps = passed ++ tail ∧ tail ≠ [] ∧
    ∃ way, way ∈ decodedCall (.after passed tail) := by
  have letter : ∀ c ∈ "c".toList, isNameChar c = true := List.all_eq_true.mp rfl
  have split : simple.script steps =
      (simple.objectLine ++ (simple.functionLine steps ++ ("g".toList ++ (".T".toList ++
        ("=".toList ++ "function(c)".toList))))) ++ ("\x7b".toList ++ ("c".toList ++ ("&&(".toList ++
          ("c".toList ++ ("=".toList ++ (simple.function.text ++ closing)))))) := by
    unfold script
    rw [callLine_eq]
    simp only [List.append_assoc]
  refine ⟨_, _, split, by simp, ?_⟩
  simp only [decodedCall, nameStart_then, name_then, literal_then, taken_atLeast_every_then, mem_pure]
  exact ⟨_, "\x7b".toList, _, rfl, .inr ⟨'{', rfl, rfl⟩,
    "c".toList, _, .of_mark letter rfl _, by decide, _, rfl,
    "c".toList, _, .of_mark letter rfl _, by decide, _, rfl,
    simple.function.text, _, .of_mark simple.function.plain rfl _, simple.long, _, rfl,
    "c".toList, _, .of_mark letter rfl _, by decide, _, rfl, rfl⟩

theorem nameByDecodedCall_eq :
    nameByDecodedCall (simple.script steps) = some ⟨simple.function.text, none⟩ := by
  obtain ⟨passed, tail, split, more, way, present⟩ := simple.exists_decodedCall steps
  obtain ⟨found, first, value⟩ := first?_of_way
    (fun _ _ split _ _ => simple.decodedCall_value steps split) split more present
  exact findSome?_all first (by simp [value])

-- No array is declared in the script, under whatever name.
theorem arrayOf_eq_none (word : Text) : (arrayOf word).first? (simple.script steps) = none := by
  apply first?_eq_none
  intro passed tail split way found
  simp only [arrayOf, literal_then, someBlanks_then, text_then, blanks_then] at found
  obtain ⟨_, rfl, before, _, beforeSpans, -, _, rfl, behind, _, behindSpans, tail, rfl, found⟩ := found
  obtain ⟨gap, _, gapSpans, _, rfl, -⟩ := found
  have parted : simple.script steps =
      (passed ++ ("var".toList ++ (before ++ (word ++ behind)))) ++ '=' :: tail := by
    rw [split, beforeSpans.split, behindSpans.split]
    simp only [List.append_assoc]
    rfl
  have assignment := simple.around_equals steps _ '=' _ parted rfl
  obtain ⟨c, rest, same, known⟩ := assignment.next
  have first : c = '[' := (List.cons.inj (same.symm.trans (assignment.no_gap gapSpans).symm)).1
  subst first
  rcases known with inside | other
  · cases inside
  · cases other

theorem functionName?_eq :
    functionName? .signature (simple.script steps) = some simple.function.text := by
  simp [functionName?, nameAttempts, nameByDecodedCall_eq, NameUse.resolve, arrayOf_eq_none]

-- The word "function" is followed by a name nowhere in the script.
theorem not_named {word read text behind : Text} (split : simple.script steps = read ++ text) :
    ¬ Script.Defines word .named text behind := by
  intro named
  cases named with
  | @named gap gapBehind behind apart filled apartBehind =>
    obtain ⟨c, gap, rfl⟩ := List.exists_cons_of_ne_nil filled
    have parted : simple.script steps = (read ++ "function".toList) ++ c :: (gap ++ (word ++
        (gapBehind ++ ("(".toList ++ behind)))) := by
      rw [split]
      simp only [List.append_assoc, List.cons_append]
    obtain ⟨ending, known, ends⟩ :=
      simple.around_blanks steps _ c _ parted (apart c List.mem_cons_self)
    have others : ∀ ending ∈ ["var".toList, "return".toList, ";".toList],
        ending.length ≤ "function".toList.length ∧ ¬ ending <:+ "function".toList := by decide
    obtain ⟨short, other⟩ := others ending known
    exact other (List.suffix_of_suffix_length_le ends (List.suffix_append _ _) short)

-- A long name, with or without blanks behind it, does not end in a mark and one more character.
theorem not_suffix {mark last : Char} {front word gap : Text} (outside : isNameChar mark = false)
    (inside : Text.isBlank last = false) (plain : ∀ c ∈ word, isNameChar c = true)
    (long : 2 ≤ word.length) (blank : ∀ c ∈ gap, Text.isBlank c = true) :
    ¬ [mark, last] <:+ front ++ (word ++ gap) := by
  intro ends
  rcases List.eq_nil_or_concat gap with rfl | ⟨before, c, rfl⟩
  · rw [List.append_nil] at ends
    have inWord : [mark, last] <:+ word :=
      List.suffix_of_suffix_length_le ends (List.suffix_append _ _) long
    have named := plain mark (inWord.subset List.mem_cons_self)
    rw [outside] at named
    cases named
  · obtain ⟨rest, same⟩ := ends
    have lasts := congrArg List.getLast? same
    simp only [List.concat_eq_append, List.getLast?_append, List.getLast?_cons, List.getLast?_nil,
      Option.getD_none, Option.getD_some, Option.some_or, Option.some.injEq] at lasts
    subst lasts
    rw [blank last (by simp)] at inside
    cases inside

-- What looks like a definition of the function is the one in the function line.
theorem definition_rest {front gap after gapBehind afterWord gapOpening behind rest : Text}
    (split : simple.script steps = front ++ (simple.function.text ++ after))
    (spans : Spans Text.isBlank gap ("=".toList ++ behind) after)
    (spansBehind : Spans Text.isBlank gapBehind ("function".toList ++ afterWord) behind)
    (spansOpening : Spans Text.isBlank gapOpening ("(".toList ++ rest) afterWord) :
    ∃ more, rest = "a".toList ++ (")".toList ++ ("\x7b".toList ++ (simple.body steps ++
      ("\x7d;".toList ++ more)))) := by
  have parted : simple.script steps = (front ++ (simple.function.text ++ gap)) ++ '=' :: behind := by
    rw [split, spans.split]
    simp only [List.append_assoc]
    rfl
  have assignment := simple.around_equals steps _ '=' _ parted rfl
  have same := assignment.no_gap spansBehind
  cases assignment with
  | inside first => rcases first with rfl | rfl <;> simp at same
  | object => simp at same
  | @function more =>
    obtain rfl := List.append_cancel_left same
    have opening := spansOpening.read_mark rfl
    exact ⟨more, List.append_cancel_left opening⟩
  | member ends =>
    exact absurd ends (not_suffix rfl rfl simple.function.plain simple.long spans.inside)
  | call ends =>
    exact absurd ends (not_suffix rfl rfl simple.function.plain simple.long spans.inside)

theorem functionHead?_eq : ∃ more, functionHead? simple.function.text (simple.script steps) =
    some (.assigned, "a".toList ++ (")".toList ++ ("\x7b".toList ++ (simple.body steps ++
      ("\x7d;".toList ++ more))))) := by
  have split : simple.script steps = simple.objectLine ++ (simple.function.text ++ ("=".toList ++
      ("function".toList ++ ("(".toList ++ ("a".toList ++ (")".toList ++ ("\x7b".toList ++
        (simple.body steps ++ ("\x7d;".toList ++ ("\n".toList ++ simple.callLine)))))))))) := by
    unfold script
    rw [functionLine_eq]
    simp only [List.append_assoc]
  have free : Free simple.objectLine := by
    intro c present
    unfold objectLine at present
    rw [List.getLast?_append] at present
    cases present
    rfl
  have assigned : ∀ read text behind, simple.script steps = read ++ text → Free read →
      Script.Defines simple.function.text .assigned text behind → ∃ more, behind = "a".toList ++
        (")".toList ++ ("\x7b".toList ++ (simple.body steps ++ ("\x7d;".toList ++ more)))) := by
    intro read text behind split _ defines
    cases defines with
    | assigned apart apartBehind apartOpening =>
      exact simple.definition_rest steps split (.of_mark apart rfl _) (.of_mark apartBehind rfl _)
        (.of_mark apartOpening rfl _)
  obtain ⟨_, head, more, rfl⟩ := functionHead?_assigned
    (fun _ _ _ split _ => simple.not_named steps split) assigned split free
    (.of_spans (.empty rfl _) (.empty rfl _) (.empty rfl _))
  exact ⟨more, head⟩

end StreamLinks.SimpleScript
