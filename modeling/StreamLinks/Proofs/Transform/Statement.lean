import StreamLinks.Proofs.Script.Word
import StreamLinks.Proofs.Search.Found
import StreamLinks.Proofs.Text.Splitting
import StreamLinks.Transform.Classify
/-!
The statements of a body: how it is split into them, and what the three kinds of them are read as.
-/
namespace StreamLinks

namespace Script

theorem Word.head_visible (word : Word) : word.text.head?.map Text.isBlank = some false := by
  obtain ⟨c, rest, named⟩ := List.exists_cons_of_ne_nil word.filled
  have inside := word.plain c (by simp [named])
  rw [named, List.head?_cons, Option.map_some, isBlank_of_isNameChar inside]

theorem Word.ne_mark_append (word : Word) {mark : Char} (outside : isNameChar mark = false)
    (rest tail : Text) : word.text ++ rest ≠ mark :: tail := by
  intro same
  obtain ⟨c, letters, named⟩ := List.exists_cons_of_ne_nil word.filled
  have inside := word.plain c (by simp [named])
  rw [named] at same
  obtain rfl := (List.cons.inj same).1
  rw [inside] at outside
  cases outside

end Script

namespace Transform
open Script Pattern

theorem letterA_filled : "a".toList ≠ [] := by decide

theorem letterA_plain : ∀ c ∈ "a".toList, isNameChar c = true := List.all_eq_true.mp rfl

def letterA : Word := ⟨"a".toList, letterA_filled, letterA_plain⟩

-- A call of a helper, with the numeral of its second argument if there is one.
structure HelperCall where
  object : Word
  function : Word
  numeral : Option Text
  digits : ∀ digits ∈ numeral, digits ≠ [] ∧ ∀ c ∈ digits, c.isDigit = true

def HelperCall.argument (call : HelperCall) : Text := call.numeral.elim [] (',' :: ·)

def HelperCall.statement (param : Word) (call : HelperCall) : Text :=
  call.object.text ++ (".".toList ++ (call.function.text ++ ("(".toList ++ (param.text ++
    (call.argument ++ ")".toList)))))

-- The number that is passed on, unless its numeral stands for one that is too large.
def HelperCall.value? (call : HelperCall) : Option Nat :=
  match call.numeral with
  | none => some 0
  | some digits => Text.readNat? argumentBound digits

def HelperCall.reading? (param : Word) (call : HelperCall) : Option Statement :=
  call.value?.map (.call call.object.text call.function.text param.text)

def splitText (param : Word) : Text := param.text ++ "=".toList ++ param.text ++ ".split(\"\")".toList

def joinText (param : Word) : Text := "return ".toList ++ param.text ++ ".join(\"\")".toList

section pieces
variable {statement rest : Text}

theorem statementsOf_cons (absent : ';' ∉ statement) (trimmed : Text.trim statement = statement)
    (filled : statement ≠ []) :
    statementsOf (statement ++ ';' :: rest) = statement :: statementsOf rest := by
  unfold statementsOf
  rw [Text.splitAtChar_piece absent, List.map_cons, trimmed, List.filter_cons_of_pos]
  simpa using filled

theorem statementsOf_last (absent : ';' ∉ statement) (filled : Text.trim statement ≠ []) :
    statementsOf statement = [Text.trim statement] := by
  unfold statementsOf
  rw [Text.splitAtChar_last absent, List.map_singleton, List.filter_cons_of_pos, List.filter_nil]
  simpa using filled

end pieces

section calls
variable {param : Word} {call : HelperCall}

-- Besides names and numerals a call has only these marks.
theorem HelperCall.mem_statement {c : Char} (present : c ∈ call.statement param) :
    isNameChar c = true ∨ c ∈ ".(,)".toList := by
  simp only [statement, List.mem_append] at present
  rcases present with object | dot | function | opening | parameter | argument | closing
  · exact .inl (call.object.plain c object)
  · exact .inr (by obtain rfl := List.mem_singleton.mp dot; decide)
  · exact .inl (call.function.plain c function)
  · exact .inr (by obtain rfl := List.mem_singleton.mp opening; decide)
  · exact .inl (param.plain c parameter)
  · cases numeral : call.numeral with
    | none =>
      rw [HelperCall.argument, numeral] at argument
      cases argument
    | some digits =>
      rw [HelperCall.argument, numeral] at argument
      rcases List.mem_cons.mp argument with rfl | present
      · exact .inr (by decide)
      · have digit := (call.digits digits numeral).2 c present
        exact .inl (by simp [isNameChar, Char.isAlphanum, digit])
  · exact .inr (by obtain rfl := List.mem_singleton.mp closing; decide)

theorem HelperCall.not_mem_statement {mark : Char} (unnamed : isNameChar mark = false)
    (other : mark ∉ ".(,)".toList) : mark ∉ call.statement param := by
  intro present
  rcases call.mem_statement present with inside | known
  · rw [unnamed] at inside
    cases inside
  · exact other known

theorem HelperCall.isBlank_of_mem_statement {c : Char} (present : c ∈ call.statement param) :
    Text.isBlank c = false := by
  have marks : ".(,)".toList.any Text.isBlank = false := rfl
  rcases call.mem_statement present with inside | mark
  · exact isBlank_of_isNameChar inside
  · exact outside_of_any marks c mark

theorem HelperCall.statementsOf_statement (rest : Text) :
    statementsOf (call.statement param ++ ';' :: rest) = call.statement param :: statementsOf rest := by
  apply statementsOf_cons
  · exact call.not_mem_statement (by decide) (by decide)
  · exact Text.trim_of_ends
      (fun _ present => call.isBlank_of_mem_statement (List.mem_of_head? present))
      fun _ present => call.isBlank_of_mem_statement (List.mem_of_getLast? present)
  · simp [statement]

theorem splitStatement_eq_none : splitStatement.whole? (call.statement param) = none := by
  apply whole?_eq_none
  intro way found
  simp only [splitStatement, HelperCall.statement, name_then, blanks_then, literal_then] at found
  obtain ⟨_, _, spansTarget, -, _, _, spansGap, _, rfl, -⟩ := found
  obtain ⟨-, rfl⟩ := spansTarget.read call.object.plain rfl
  have mark := spansGap.read_mark rfl
  simp at mark

theorem joinStatement_eq_none : joinStatement.whole? (call.statement param) = none := by
  apply whole?_eq_none
  intro way found
  simp only [joinStatement, literal_then, someBlanks_then] at found
  obtain ⟨_, split, gap, _, spans, filled, -⟩ := found
  obtain ⟨c, present⟩ := List.exists_mem_of_length_pos filled
  have here : c ∈ call.statement param := by
    rw [split, spans.split]
    simp [present]
  have outside := call.isBlank_of_mem_statement here
  rw [spans.inside c present] at outside
  cases outside

-- What follows the name that is passed on.
theorem HelperCall.ending_cases : call.numeral = none ∧ call.argument ++ ")".toList = ")".toList ++ [] ∨
    ∃ digits, call.numeral = some digits ∧
      call.argument ++ ")".toList = ",".toList ++ (digits ++ (")".toList ++ [])) := by
  unfold argument
  cases numeral : call.numeral with
  | none => exact .inl ⟨rfl, rfl⟩
  | some digits => exact .inr ⟨digits, rfl, by simp⟩

theorem HelperCall.digits_spans {digits : Text} (numeral : call.numeral = some digits) (rest : Text) :
    Spans Text.isDecimalDigit digits (")".toList ++ rest) (digits ++ (")".toList ++ rest)) :=
  .of_mark (fun c present => Text.isDecimalDigit_of_isDigit ((call.digits digits numeral).2 c present))
    rfl rest

theorem HelperCall.digits_visible {digits : Text} (numeral : call.numeral = some digits) :
    digits.head?.map Text.isBlank = some false := by
  obtain ⟨filled, plain⟩ := call.digits digits numeral
  obtain ⟨c, rest, rfl⟩ := List.exists_cons_of_ne_nil filled
  have outside := isBlank_of_isNameChar (c := c)
    (by simp [isNameChar, Char.isAlphanum, plain c List.mem_cons_self])
  rw [List.head?_cons, Option.map_some, outside]

-- There is one way to read a call, and it takes all of it.
theorem callStatement_value {value : Text × Text × Text × Option Text} {stop : Cursor}
    (found : (value, stop) ∈ callStatement (.after [] (call.statement param))) :
    value = (call.object.text, call.function.text, param.text, call.numeral) := by
  simp only [HelperCall.statement, callStatement, name_then, blanks_then, literal_then, optional_then,
    bind_then, digits_then, pure_then, mem_pure] at found
  obtain ⟨_, _, spansObject, -, _, rfl, _, _, spansFunction, -, _, rfl, found⟩ := found
  obtain ⟨rfl, behind⟩ := spansObject.read call.object.plain rfl
  obtain rfl := List.append_cancel_left behind
  obtain ⟨rfl, behind⟩ := spansFunction.read call.function.plain rfl
  obtain rfl := List.append_cancel_left behind
  obtain ⟨_, _, spansGap, _, _, spansParameter, -, _, _, spansBehind, found⟩ := found
  obtain rfl := spansGap.read_mark param.head_visible
  rcases call.ending_cases with ⟨none, ending⟩ | ⟨digits, numeral, ending⟩
  · rw [ending] at spansParameter
    obtain ⟨rfl, rfl⟩ := spansParameter.read param.plain rfl
    obtain rfl := spansBehind.read_mark rfl
    rcases found with ⟨_, comma, -⟩ | ⟨_, -, same⟩
    · simp at comma
    · rw [none]
      exact (Prod.mk.inj same).1
  · rw [ending] at spansParameter
    obtain ⟨rfl, rfl⟩ := spansParameter.read param.plain rfl
    obtain rfl := spansBehind.read_mark rfl
    rcases found with ⟨_, comma, _, _, spansBefore, _, _, spansNumeral, -, _, _, -, _, -, same⟩ |
      ⟨_, mark, -⟩
    · obtain rfl := List.append_cancel_left comma
      obtain rfl := spansBefore.read_mark (call.digits_visible numeral)
      obtain ⟨rfl, -⟩ := spansNumeral.unique (call.digits_spans numeral [])
      rw [numeral]
      exact (Prod.mk.inj same).1
    · simp at mark

theorem exists_callStatement (param : Word) (call : HelperCall) : ∃ read : Text,
    ((call.object.text, call.function.text, param.text, call.numeral), Cursor.after read []) ∈
      callStatement (.after [] (call.statement param)) := by
  simp only [HelperCall.statement, callStatement, name_then, blanks_then, literal_then, optional_then,
    bind_then, digits_then, pure_then, mem_pure]
  rcases call.ending_cases with ⟨none, ending⟩ | ⟨digits, numeral, ending⟩
  · rw [none, ending]
    exact ⟨_, call.object.text, _, .of_mark call.object.plain rfl _, call.object.length_pos, _, rfl,
      call.function.text, _, .of_mark call.function.plain rfl _, call.function.length_pos, _, rfl,
      [], _, .empty param.head_visible _, param.text, _, .of_mark param.plain rfl _, param.length_pos,
      [], _, .empty rfl _, .inr ⟨_, rfl, rfl⟩⟩
  · have filled : 1 ≤ digits.length := List.length_pos_iff.mpr (call.digits digits numeral).1
    rw [numeral, ending]
    exact ⟨_, call.object.text, _, .of_mark call.object.plain rfl _, call.object.length_pos, _, rfl,
      call.function.text, _, .of_mark call.function.plain rfl _, call.function.length_pos, _, rfl,
      [], _, .empty param.head_visible _, param.text, _, .of_mark param.plain rfl _, param.length_pos,
      [], _, .empty rfl _, .inl ⟨_, rfl, [], _, .empty (call.digits_visible numeral) _,
        digits, _, call.digits_spans numeral [], filled, [], _, .empty rfl _, _, rfl, rfl⟩⟩

theorem callStatement_eq : callStatement.whole? (call.statement param) =
    some (call.object.text, call.function.text, param.text, call.numeral) := by
  obtain ⟨read, present⟩ := exists_callStatement param call
  exact whole?_eq_some present rfl fun _ _ found _ => callStatement_value found

theorem read?_call : Statement.read? (call.statement param) = call.reading? param := by
  unfold Statement.read? HelperCall.reading? HelperCall.value?
  rw [splitStatement_eq_none, joinStatement_eq_none, callStatement_eq]
  simp only [Option.bind_eq_bind, Option.bind_some]
  cases call.numeral with
  | none => rfl
  | some digits =>
    dsimp only
    cases Text.readNat? argumentBound digits <;> rfl

end calls

section ends
variable (param : Word)

-- A method called on the empty text without blanks is read in one way.
theorem onEmptyText_then {β : Type} {method : String} {next : Unit → Pattern β} {read rest : Text}
    {way : β × Cursor} :
    way ∈ (onEmptyText method >>= next)
        (.after read (method.toList ++ ("(".toList ++ ("\"\"".toList ++ (")".toList ++ rest))))) ↔
      way ∈ next () (.after (read ++ method.toList ++ "(\"\")".toList) rest) := by
  have mark : "(\"\")".toList = "(".toList ++ ("\"\"".toList ++ ")".toList) := rfl
  rw [mark]
  simp only [onEmptyText, bind_then, literal_then, blanks_then]
  constructor
  · intro found
    obtain ⟨_, method, _, opening, gap, _, spans, _, quotes, gapBehind, _, spansBehind, _, closing,
      found⟩ := found
    obtain rfl := List.append_cancel_left method
    obtain rfl := List.append_cancel_left opening
    obtain ⟨rfl, rfl⟩ := spans.unique (.empty rfl _)
    obtain rfl := List.append_cancel_left quotes
    obtain ⟨rfl, rfl⟩ := spansBehind.unique (.empty rfl _)
    obtain rfl := List.append_cancel_left closing
    simpa only [List.append_assoc, List.append_nil] using found
  · intro found
    refine ⟨_, rfl, _, rfl, [], _, .empty rfl _, _, rfl, [], _, .empty rfl _, _, rfl, ?_⟩
    simpa only [List.append_assoc, List.append_nil] using found

theorem splitText_eq : splitText param = param.text ++ ("=".toList ++ (param.text ++
    (".split".toList ++ ("(".toList ++ ("\"\"".toList ++ (")".toList ++ [])))))) := by
  have method : ".split(\"\")".toList =
      ".split".toList ++ ("(".toList ++ ("\"\"".toList ++ (")".toList ++ []))) := rfl
  unfold splitText
  rw [method]
  simp only [List.append_assoc]

theorem joinText_eq : joinText param = "return".toList ++ (" ".toList ++ (param.text ++
    (".join".toList ++ ("(".toList ++ ("\"\"".toList ++ (")".toList ++ [])))))) := by
  have keyword : "return ".toList = "return".toList ++ " ".toList := rfl
  have method : ".join(\"\")".toList =
      ".join".toList ++ ("(".toList ++ ("\"\"".toList ++ (")".toList ++ []))) := rfl
  unfold joinText
  rw [keyword, method]
  simp only [List.append_assoc]

theorem splitStatement_value {value : Text × Text} {stop : Cursor}
    (found : (value, stop) ∈ splitStatement (.after [] (splitText param))) :
    value = (param.text, param.text) := by
  rw [splitText_eq] at found
  simp only [splitStatement, name_then, blanks_then, literal_then] at found
  obtain ⟨_, _, spansTarget, -, _, _, spansGap, _, sign, found⟩ := found
  obtain ⟨rfl, rfl⟩ := spansTarget.read param.plain rfl
  obtain rfl := spansGap.read_mark rfl
  obtain rfl := List.append_cancel_left sign
  obtain ⟨_, _, spansBehind, _, _, spansSource, -, found⟩ := found
  obtain rfl := spansBehind.read_mark param.head_visible
  obtain ⟨rfl, rfl⟩ := spansSource.read param.plain rfl
  rw [onEmptyText_then, mem_pure] at found
  exact (Prod.mk.inj found).1

theorem exists_splitStatement : ∃ read : Text, ((param.text, param.text), Cursor.after read []) ∈
    splitStatement (.after [] (splitText param)) := by
  rw [splitText_eq]
  simp only [splitStatement, name_then, blanks_then, literal_then]
  exact ⟨_, param.text, _, .of_mark param.plain rfl _, param.length_pos, [], _, .empty rfl _, _, rfl,
    [], _, .empty param.head_visible _, param.text, _, .of_mark param.plain rfl _, param.length_pos,
    onEmptyText_then.mpr (mem_pure.mpr rfl)⟩

theorem read?_split : Statement.read? (splitText param) = some (.split param.text) := by
  obtain ⟨read, present⟩ := exists_splitStatement param
  have whole : splitStatement.whole? (splitText param) = some (param.text, param.text) :=
    whole?_eq_some present rfl fun _ _ found _ => splitStatement_value param found
  unfold Statement.read?
  rw [whole]
  exact if_pos rfl

-- Behind the blank an equals sign would have to follow.
theorem splitStatement_joinText : splitStatement.whole? (joinText param) = none := by
  have keyword : ∀ c ∈ "return".toList, isNameChar c = true := List.all_eq_true.mp rfl
  apply whole?_eq_none
  intro way found
  rw [joinText_eq] at found
  simp only [splitStatement, name_then, blanks_then, literal_then] at found
  obtain ⟨_, _, spansTarget, -, _, _, spansGap, _, sign, -⟩ := found
  obtain ⟨rfl, rfl⟩ := spansTarget.read keyword rfl
  obtain ⟨rfl, rfl⟩ := spansGap.read gap_space param.head_visible
  exact absurd sign (param.ne_mark_append rfl _ _)

theorem joinStatement_value {value : Text} {stop : Cursor}
    (found : (value, stop) ∈ joinStatement (.after [] (joinText param))) : value = param.text := by
  rw [joinText_eq] at found
  simp only [joinStatement, name_then, someBlanks_then, literal_then] at found
  obtain ⟨_, keyword, _, _, spansGap, -, _, _, spansParameter, -, found⟩ := found
  obtain rfl := List.append_cancel_left keyword
  obtain ⟨rfl, rfl⟩ := spansGap.read gap_space param.head_visible
  obtain ⟨rfl, rfl⟩ := spansParameter.read param.plain rfl
  rw [onEmptyText_then, mem_pure] at found
  exact (Prod.mk.inj found).1

theorem exists_joinStatement : ∃ read : Text,
    (param.text, Cursor.after read []) ∈ joinStatement (.after [] (joinText param)) := by
  rw [joinText_eq]
  simp only [joinStatement, name_then, someBlanks_then, literal_then]
  exact ⟨_, _, rfl, " ".toList, _, .of_mark gap_space param.head_visible _, by decide, param.text, _,
    .of_mark param.plain rfl _, param.length_pos, onEmptyText_then.mpr (mem_pure.mpr rfl)⟩

theorem read?_join : Statement.read? (joinText param) = some (.join param.text) := by
  obtain ⟨read, present⟩ := exists_joinStatement param
  have whole : joinStatement.whole? (joinText param) = some param.text :=
    whole?_eq_some present rfl fun _ _ found _ => joinStatement_value param found
  unfold Statement.read?
  rw [splitStatement_joinText, whole]

end ends
end Transform
end StreamLinks
