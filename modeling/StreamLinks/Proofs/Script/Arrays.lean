import StreamLinks.Proofs.Script.Word
import StreamLinks.Proofs.Search.Leftmost
import StreamLinks.Proofs.Text.Cutting
import StreamLinks.Proofs.Text.Numeral
import StreamLinks.Script.FunctionName
/-!
Names that stand for an array of functions.

A call site tells a name and perhaps an index. Where the script declares the name as an array of names, the function
is the element at the index, and without an index the first one; an index beyond the array leaves the name itself.
-/
namespace StreamLinks.Script
open Pattern

-- The numeral of an index, perhaps with zeros in front.
structure Numeral where
  text : Text
  filled : text ≠ []
  digits : ∀ c ∈ text, c.isDigit = true
  fits : Text.digitsValue text < indexBound

def Numeral.value (numeral : Numeral) : Nat := Text.digitsValue numeral.text

-- A name in an array, with the blanks around it.
structure Element where
  front : Text
  word : Word
  back : Text
  apart : Gap front
  apartBehind : Gap back

def Element.text (element : Element) : Text := element.front ++ (element.word.text ++ element.back)

def subscriptOf : Option Numeral → Text
  | none => []
  | some numeral => "[".toList ++ (numeral.text ++ "]".toList)

-- What stands between the brackets of an array.
def elementsText (first : Element) (others : List Element) : Text :=
  first.text ++ (others.map (·.text)).flatMap (',' :: ·)

-- A call site that gets the token and hands it to the function.
def getterText (name : Word) (index : Option Numeral) : Text :=
  ".get(\"n\"))&&(b=".toList ++ (name.text ++ (subscriptOf index ++ "(b)".toList))

def arrayText (name : Word) (first : Element) (others : List Element) : Text :=
  "var ".toList ++ (name.text ++ ("=[".toList ++ (elementsText first others ++ "];".toList)))

section callSite
variable {name : Word} {index : Option Numeral} {before rest : Text}

theorem getterText_append (name : Word) (index : Option Numeral) (rest : Text) : getterText name index ++ rest =
    ".get(\"n\"))&&(".toList ++ ("b".toList ++ ("=".toList ++ (name.text ++ (subscriptOf index ++
      ("(".toList ++ ("b".toList ++ (")".toList ++ rest))))))) := by
  have head : ".get(\"n\"))&&(b=".toList = ".get(\"n\"))&&(".toList ++ ("b".toList ++ "=".toList) := by decide
  have tail : "(b)".toList = "(".toList ++ ("b".toList ++ ")".toList) := rfl
  unfold getterText
  simp only [head, tail, List.append_assoc]

theorem readNat?_numeral (numeral : Numeral) : Text.readNat? indexBound numeral.text = some numeral.value :=
  Text.readNat?_eq_some_iff.mpr ⟨numeral.filled, numeral.digits, numeral.fits, rfl⟩

-- A bracket ends the name at a call site.
theorem subscript_outside (index : Option Numeral) (rest : Text) :
    ∀ c ∈ (subscriptOf index ++ ("(".toList ++ rest)).head?, isNameChar c = false := by
  cases index <;> (intro c present; cases present; rfl)

theorem getterCall_value {value : NameUse} {stop : Cursor}
    (found : (value, stop) ∈ getterCall (.after before (getterText name index ++ rest))) :
    value = ⟨name.text, index.map (·.value)⟩ := by
  have letter : ∀ c ∈ "b".toList, isNameChar c = true := List.all_eq_true.mp rfl
  rw [getterText_append] at found
  simp only [getterCall, indexedName, bind_then, literal_then, run_then, name_then, optional_then, subscript,
    digits_then, pure_then, one_then, mem_pure] at found
  obtain ⟨_, same, target, _, spans, -, _, rfl, word, behind, spansWord, -, found⟩ := found
  obtain rfl := List.append_cancel_left same
  obtain ⟨rfl, same⟩ := spans.read letter rfl
  obtain rfl := List.append_cancel_left same
  obtain ⟨rfl, rfl⟩ := spansWord.unique ⟨rfl, name.plain, subscript_outside index _⟩
  cases index with
  | none =>
    rcases found with ⟨_, bracket, -⟩ | ⟨_, -, _, _, -, -, _, -, same⟩
    · cases bracket
    · exact (Prod.mk.inj same).1
  | some numeral =>
    rcases found with ⟨_, same, digits, _, spansDigits, -, _, rfl, _, -, _, _, -, -, _, -, ends⟩ | ⟨_, bracket, -⟩
    · have decimal (c : Char) (present : c ∈ numeral.text) : Text.isDecimalDigit c = true :=
        Text.isDecimalDigit_of_isDigit (numeral.digits c present)
      simp only [subscriptOf, List.append_assoc] at same
      obtain rfl := List.append_cancel_left same
      obtain ⟨rfl, -⟩ := spansDigits.read decimal rfl
      rw [(Prod.mk.inj ends).1, Option.bind_some, readNat?_numeral]
      rfl
    · cases bracket

theorem exists_getterCall (before : Text) (name : Word) (index : Option Numeral) (rest : Text) :
    ∃ way, way ∈ getterCall (.after before (getterText name index ++ rest)) := by
  have letter : ∀ c ∈ "b".toList, isNameChar c = true := List.all_eq_true.mp rfl
  rw [getterText_append]
  simp only [getterCall, indexedName, bind_then, literal_then, run_then, name_then, optional_then, subscript,
    digits_then, pure_then, one_then, mem_pure]
  cases index with
  | none =>
    exact ⟨_, _, rfl, "b".toList, _, .of_mark letter rfl _, Nat.le_refl 1, _, rfl, name.text, _,
      ⟨rfl, name.plain, subscript_outside none _⟩, name.length_pos, .inr ⟨_, rfl, 'b', _, rfl, rfl, rest, rfl, rfl⟩⟩
  | some numeral =>
    have decimal (c : Char) (present : c ∈ numeral.text) : Text.isDecimalDigit c = true :=
      Text.isDecimalDigit_of_isDigit (numeral.digits c present)
    have spans (rest : Text) : Spans Text.isDecimalDigit numeral.text ("]".toList ++ rest)
        (numeral.text ++ ("]".toList ++ rest)) := .of_mark decimal rfl rest
    refine ⟨_, _, rfl, "b".toList, _, .of_mark letter rfl _, Nat.le_refl 1, _, rfl, name.text, _,
      ⟨rfl, name.plain, subscript_outside (some numeral) _⟩, name.length_pos, .inl ⟨_, ?_, numeral.text, _, spans _,
        List.length_pos_iff.mpr numeral.filled, _, rfl, _, rfl, 'b', _, rfl, rfl, rest, rfl, rfl⟩⟩
    simp only [subscriptOf, List.append_assoc]
    rfl

theorem getter_of_getterCall {read back : Text} {way : NameUse × Cursor}
    (found : way ∈ getterCall (.after read back)) : ∃ behind, back = ".get(\"n\")".toList ++ behind := by
  simp only [getterCall, literal_then] at found
  obtain ⟨behind, rfl, -⟩ := found
  have longer : ".get(\"n\"))&&(".toList = ".get(\"n\")".toList ++ ")&&(".toList := rfl
  exact ⟨_, by rw [longer, List.append_assoc]⟩

-- The first getter is the one at the call site, if none stands before.
theorem nameByCallSite_eq (fresh : ¬ ".get(\"n\")".toList <:+: before) (name : Word) (index : Option Numeral)
    (rest : Text) : nameByCallSite (before ++ (getterText name index ++ rest)) =
      some ⟨name.text, index.map (·.value)⟩ := by
  obtain ⟨way, present⟩ := exists_getterCall before name index rest
  obtain ⟨behind, starts⟩ := getter_of_getterCall present
  have more : getterText name index ++ rest ≠ [] := by
    rw [starts]
    exact List.cons_ne_nil _ _
  have least : ∀ front back other, before ++ (getterText name index ++ rest) = front ++ back →
      other ∈ getterCall (.after front back) → before.length ≤ front.length := by
    intro front back other split found
    obtain ⟨tail, rfl⟩ := getter_of_getterCall found
    rw [starts] at split
    have shared : (front ++ ['.']) ++ ("get(\"n\")".toList ++ tail) =
        before ++ '.' :: ("get(\"n\")".toList ++ behind) := by
      rw [List.append_assoc]
      exact split.symm
    -- A getter that begins earlier ends before the one at the call site.
    rcases Text.beside (by decide) shared with ⟨more, rfl⟩ | ⟨more, same⟩
    · exact absurd ⟨front, more, by simp⟩ fresh
    · have lengths := congrArg List.length same
      simp only [List.length_append, List.length_cons, List.length_nil] at lengths
      omega
  obtain ⟨found, first, here⟩ := first?_least more present least
  rw [nameByCallSite, first]
  exact congrArg some (getterCall_value here)

end callSite

section array
variable {name word : Word} {first : Element} {others : List Element} {before between rest : Text}

theorem Element.not_mem_text {c : Char} (element : Element) (outside : isNameChar c = false)
    (visible : Text.isBlank c = false) : c ∉ element.text := by
  intro present
  simp only [Element.text, List.mem_append] at present
  rcases present with front | word | back
  · exact Bool.false_ne_true (visible.symm.trans (element.apart c front))
  · exact Bool.false_ne_true (outside.symm.trans (element.word.plain c word))
  · exact Bool.false_ne_true (visible.symm.trans (element.apartBehind c back))

theorem bracket_not_mem_elementsText (first : Element) (others : List Element) :
    ∀ c ∈ elementsText first others, (c != ']') = true := by
  have apart (element : Element) : ']' ∉ element.text := element.not_mem_text rfl rfl
  intro c present
  simp only [elementsText, List.flatMap_map, List.mem_append, List.mem_flatMap, List.mem_cons] at present
  refine bne_iff_ne.mpr ?_
  rintro rfl
  rcases present with present | ⟨element, -, same | present⟩
  · exact apart first present
  · cases same
  · exact apart element present

theorem arrayText_append (name : Word) (first : Element) (others : List Element) (rest : Text) :
    arrayText name first others ++ rest = "var".toList ++ (" ".toList ++ (name.text ++ ("=".toList ++
      ("[".toList ++ (elementsText first others ++ ("]".toList ++ (";".toList ++ rest))))))) := by
  have head : "var ".toList = "var".toList ++ " ".toList := rfl
  have middle : "=[".toList = "=".toList ++ "[".toList := rfl
  have tail : "];".toList = "]".toList ++ ";".toList := rfl
  unfold arrayText
  simp only [head, middle, tail, List.append_assoc]

theorem arrayOf_value {value : Text} {stop : Cursor}
    (found : (value, stop) ∈ arrayOf name.text (.after before (arrayText name first others ++ rest))) :
    value = elementsText first others := by
  rw [arrayText_append] at found
  simp only [arrayOf, literal_then, someBlanks_then, text_then, blanks_then, taken_every_then,
    mem_pure] at found
  obtain ⟨_, same, _, _, spans, -, _, rfl, _, _, spansGap, _, rfl, _, _, spansBehind, _, rfl, elements, _,
    spansElements, _, -, _, _, -, _, -, ends⟩ := found
  obtain rfl := List.append_cancel_left same
  obtain ⟨-, same⟩ := spans.unique ⟨rfl, gap_space, name.blank_outside _⟩
  obtain rfl := List.append_cancel_left same
  have same := spansGap.read_mark rfl
  obtain rfl := List.append_cancel_left same
  have same := spansBehind.read_mark rfl
  obtain rfl := List.append_cancel_left same
  obtain ⟨rfl, -⟩ := spansElements.read (bracket_not_mem_elementsText first others) rfl
  exact (Prod.mk.inj ends).1

theorem exists_arrayOf (before : Text) (name : Word) (first : Element) (others : List Element) (rest : Text) :
    ∃ way, way ∈ arrayOf name.text (.after before (arrayText name first others ++ rest)) := by
  rw [arrayText_append]
  simp only [arrayOf, literal_then, someBlanks_then, text_then, blanks_then, taken_every_then,
    mem_pure]
  exact ⟨_, _, rfl, " ".toList, _, ⟨rfl, gap_space, name.blank_outside _⟩, Nat.le_refl 1, _, rfl, [], _, .empty rfl _,
    _, rfl, [], _, .empty rfl _, _, rfl, elementsText first others, _,
    .of_mark (bracket_not_mem_elementsText first others) rfl _, _, rfl, [], _, .empty rfl _, rest, rfl, rfl⟩

theorem name_of_arrayOf {read back word : Text} {way : Text × Cursor} (found : way ∈ arrayOf word (.after read back)) :
    ∃ gap behind, Gap gap ∧ gap ≠ [] ∧ back = "var".toList ++ (gap ++ (word ++ behind)) := by
  simp only [arrayOf, literal_then, someBlanks_then, text_then] at found
  obtain ⟨_, rfl, gap, _, spans, filled, behind, rfl, -⟩ := found
  exact ⟨gap, behind, spans.inside, List.length_pos_iff.mp filled, by rw [spans.split]⟩

-- The call site has no blanks, and a bracket ends it.
theorem exists_inner (name : Word) (index : Option Numeral) : ∃ inner, (∀ c ∈ inner, Text.isBlank c = false) ∧
    ∀ rest, getterText name index ++ rest = '.' :: (inner ++ ')' :: rest) := by
  refine ⟨"get(\"n\"))&&(b=".toList ++ (name.text ++ (subscriptOf index ++ "(b".toList)), ?_, ?_⟩
  · have marks : ∀ c ∈ "get(\"n\"))&&(b=".toList ++ "(b".toList, Text.isBlank c = false := outside_of_any rfl
    have subscript : ∀ c ∈ subscriptOf index, Text.isBlank c = false := by
      cases index with
      | none => exact List.forall_mem_nil _
      | some numeral =>
        intro c present
        simp only [subscriptOf, List.mem_append] at present
        rcases present with opening | digit | closing
        · cases List.mem_singleton.mp opening
          rfl
        · exact isBlank_of_isNameChar (by simp [isNameChar, Char.isAlphanum, numeral.digits c digit])
        · cases List.mem_singleton.mp closing
          rfl
    intro c present
    simp only [List.mem_append] at present
    rcases present with head | word | behind | tail
    · exact marks c (List.mem_append_left _ head)
    · exact isBlank_of_isNameChar (name.plain c word)
    · exact subscript c behind
    · exact marks c (List.mem_append_right _ tail)
  · intro rest
    have head : ".get(\"n\"))&&(b=".toList = '.' :: "get(\"n\"))&&(b=".toList := rfl
    have tail : "(b)".toList = "(b".toList ++ [')'] := rfl
    unfold getterText
    simp only [head, tail, List.append_assoc, List.cons_append, List.nil_append]

-- Where the name stands nowhere else, no declarator stands before it up to the array.
theorem declarator_absent {blank : Char} (isBlank : Text.isBlank blank = true) (index : Option Numeral)
    (absentBefore : ¬ name.text <:+: before) (absentBetween : ¬ name.text <:+: between) :
    ¬ blank :: name.text <:+: before ++ (getterText name index ++ between) := by
  obtain ⟨inner, visible, form⟩ := exists_inner name index
  have mark {c : Char} (outside : isNameChar c = false) (shown : Text.isBlank c = false) :
      c ∉ blank :: name.text := by
    rw [List.mem_cons, not_or]
    refine ⟨?_, ?_⟩
    · rintro rfl
      exact Bool.false_ne_true (shown.symm.trans isBlank)
    · exact fun present => Bool.false_ne_true (outside.symm.trans (name.plain c present))
  have shorter {text : Text} (occurs : blank :: name.text <:+: text) : name.text <:+: text :=
    (List.suffix_cons blank name.text).isInfix.trans occurs
  rw [form]
  intro occurs
  rcases Text.infix_beside (mark rfl rfl) occurs with here | behind
  · exact absentBefore (shorter here)
  · rcases Text.infix_beside (mark rfl rfl) behind with here | there
    · have hidden := visible blank (here.subset List.mem_cons_self)
      rw [hidden] at isBlank
      cases isBlank
    · exact absentBetween (shorter there)

-- The first declaration of the name as an array is this one.
theorem first?_arrayOf (index : Option Numeral) (absentBefore : ¬ name.text <:+: before)
    (absentBetween : ¬ name.text <:+: between) (first : Element) (others : List Element) (rest : Text) :
    ∃ found, (arrayOf name.text).first? (before ++ (getterText name index ++ (between ++
      ';' :: (arrayText name first others ++ rest)))) = some found ∧ found.value = elementsText first others := by
  have regroup : before ++ (getterText name index ++ (between ++ ';' :: (arrayText name first others ++ rest))) =
      ((before ++ (getterText name index ++ between)) ++ [';']) ++ (arrayText name first others ++ rest) := by simp
  obtain ⟨way, present⟩ :=
    exists_arrayOf ((before ++ (getterText name index ++ between)) ++ [';']) name first others rest
  obtain ⟨_, _, -, -, starts⟩ := name_of_arrayOf present
  have more : arrayText name first others ++ rest ≠ [] := by
    rw [starts]
    exact List.cons_ne_nil _ _
  have least : ∀ front back other, (before ++ (getterText name index ++ between)) ++ [';'] ++
      (arrayText name first others ++ rest) = front ++ back → other ∈ arrayOf name.text (.after front back) →
        ((before ++ (getterText name index ++ between)) ++ [';']).length ≤ front.length := by
    intro front back other split found
    obtain ⟨gap, behind, apart, filled, rfl⟩ := name_of_arrayOf found
    have shared : front ++ (("var".toList ++ (gap ++ name.text)) ++ behind) =
        (before ++ (getterText name index ++ between)) ++ ';' :: (arrayText name first others ++ rest) := by
      rw [List.append_assoc, List.append_assoc, ← split, List.append_assoc]
      rfl
    have mark : ';' ∉ "var".toList ++ (gap ++ name.text) := by
      intro present
      simp only [List.mem_append] at present
      rcases present with keyword | blank | word
      · exact absurd keyword (by decide)
      · cases apart ';' blank
      · cases name.plain ';' word
    rcases Text.beside mark shared with ⟨more, same⟩ | ⟨more, rfl⟩
    · -- The blank before the name would stand in one of the texts.
      obtain ⟨gap, blank, rfl⟩ := (List.eq_nil_or_concat gap).resolve_left filled
      rw [List.concat_eq_append] at same apart
      refine absurd ⟨front ++ ("var".toList ++ gap), more, ?_⟩
        (declarator_absent (apart blank (by simp)) index absentBefore absentBetween)
      rw [same]
      simp
    · simp only [List.length_append, List.length_cons, List.length_nil]
      omega
  obtain ⟨found, leftmost, here⟩ := first?_least more present least
  exact ⟨found, regroup ▸ leftmost, arrayOf_value here⟩

theorem Element.trim_text (element : Element) : Text.trim element.text = element.word.text :=
  Text.trim_between element.apart element.apartBehind element.word.filled
    fun c present => isBlank_of_isNameChar (element.word.plain c present)

theorem splitAtChar_elementsText (first : Element) (others : List Element) :
    Text.splitAtChar ',' (elementsText first others) = (first :: others).map (·.text) := by
  refine Text.splitAtChar_pieces ?_
  rw [← List.map_cons (f := Element.text), List.forall_mem_map]
  exact fun element _ => element.not_mem_text rfl rfl

-- Among the elements the one at the index is meant.
theorem resolve_element {use : NameUse} {script : Text} {found : Match Text}
    (declared : (arrayOf use.name).first? script = some found) (value : found.value = elementsText first others) :
    use.resolve script = ((first :: others)[use.index.getD 0]?.map (·.word.text)).getD use.name := by
  simp only [NameUse.resolve, declared, Option.bind_some, value, splitAtChar_elementsText, List.getElem?_map,
    Option.map_map]
  cases (first :: others)[use.index.getD 0]? with
  | none => rfl
  | some element =>
    have filled : element.word.text.isEmpty = false := List.isEmpty_eq_false_iff.mpr element.word.filled
    have plain : element.word.text.all isNameChar = true := List.all_eq_true.mpr element.word.plain
    simp [element.trim_text, filled, plain]

end array

-- A name that the call site tells stands for the element of its array at the index.
theorem functionName?_element (name : Word) (index : Option Numeral) (first : Element) (others : List Element)
    (before between after : Text) (absentBefore : ¬ name.text <:+: before)
    (absentBetween : ¬ name.text <:+: between) (fresh : ¬ ".get(\"n\")".toList <:+: before) :
    functionName? .throttle (before ++ (getterText name index ++ (between ++
      ';' :: (arrayText name first others ++ after)))) =
        some (((first :: others)[(index.map (·.value)).getD 0]?.map (·.word.text)).getD name.text) := by
  obtain ⟨found, leftmost, value⟩ := first?_arrayOf index absentBefore absentBetween first others after
  have told := nameByCallSite_eq fresh name index (between ++ ';' :: (arrayText name first others ++ after))
  simp only [functionName?, nameAttempts, List.findSome?_cons, told, Option.map_some]
  have resolved : (⟨name.text, index.map (·.value)⟩ : NameUse).resolve _ = _ := resolve_element leftmost value
  exact congrArg some resolved

theorem functionName?_second :
    ¬ "$N".toList <:+: "a.get(\"m\");".toList ∧ ¬ "$N".toList <:+: ",c=1".toList ∧
      ¬ ".get(\"n\")".toList <:+: "a.get(\"m\");".toList ∧
        functionName? .throttle "a.get(\"m\");.get(\"n\"))&&(b=$N[01](b),c=1;var $N=[a,\t$b ];d($N)".toList =
          some "$b".toList :=
  ⟨by decide, by decide, by decide,
    functionName?_element ⟨"$N".toList, by decide, List.all_eq_true.mp rfl⟩
      (some ⟨"01".toList, by decide, List.all_eq_true.mp rfl, by decide⟩)
      ⟨[], ⟨"a".toList, by decide, List.all_eq_true.mp rfl⟩, [], List.forall_mem_nil _, List.forall_mem_nil _⟩
      [⟨"\t".toList, ⟨"$b".toList, by decide, List.all_eq_true.mp rfl⟩, " ".toList, List.all_eq_true.mp rfl,
        List.all_eq_true.mp rfl⟩]
      "a.get(\"m\");".toList ",c=1".toList "d($N)".toList (by decide) (by decide) (by decide)⟩

end StreamLinks.Script
