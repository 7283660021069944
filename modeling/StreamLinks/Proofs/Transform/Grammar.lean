import StreamLinks.Proofs.Text.Numeral
import StreamLinks.Proofs.Transform.Calls
/-!
The grammar of simple bodies.

Three kinds of statements are told by their characters alone, with the blanks that may stand in them. A
body that is classified is a split, then calls, then a join, all of one variable, and its instructions are
those of the calls in their order.
-/
namespace StreamLinks.Transform
open Script Pattern

section grammar

-- A method of the variable, called on the empty text.
inductive OnEmpty (method : String) : Text → Prop where
  | called (apart : Gap gap) (apartBehind : Gap gapBehind) : OnEmpty method
      (method.toList ++ ("(".toList ++ (gap ++ ("\"\"".toList ++ (gapBehind ++ ")".toList)))))

-- The first statement: the variable becomes the list of its characters.
inductive IsSplit (param : Word) : Text → Prop where
  | split (apart : Gap gap) (apartBehind : Gap gapBehind) (called : OnEmpty ".split" call) :
      IsSplit param (param.text ++ (gap ++ ("=".toList ++ (gapBehind ++ (param.text ++ call)))))

-- The last statement: the characters are put together again.
inductive IsJoin (param : Word) : Text → Prop where
  | join (apart : Gap gap) (filled : gap ≠ []) (called : OnEmpty ".join" call) :
      IsJoin param ("return".toList ++ (gap ++ (param.text ++ call)))

-- The second argument of a call with the number that it passes on, or nothing, which passes on zero.
inductive Argument : Nat → Text → Prop where
  | missing : Argument 0 []
  | numeral {digits : Text} (apart : Gap gap) (filled : digits ≠ []) (decimal : ∀ c ∈ digits, c.isDigit = true)
      (fits : Text.digitsValue digits < Nat.pow 2 64) (apartBehind : Gap gapBehind) :
      Argument (Text.digitsValue digits) (",".toList ++ (gap ++ (digits ++ gapBehind)))

-- A call of a helper on the variable.
inductive IsCall (object function param : Word) (value : Nat) : Text → Prop where
  | call (apart : Gap gap) (apartBehind : Gap gapBehind) (argument : Argument value behind) :
      IsCall object function param value (object.text ++ (".".toList ++ (function.text ++ ("(".toList ++
        (gap ++ (param.text ++ (gapBehind ++ (behind ++ ")".toList))))))))

-- The parts of a statement, and the texts that are spelled with them.
inductive Spells : Statement → Text → Prop where
  | split {param : Word} (here : IsSplit param statement) : Spells (.split param.text) statement
  | join {param : Word} (here : IsJoin param statement) : Spells (.join param.text) statement
  | call {object function param : Word} (here : IsCall object function param value statement) :
      Spells (.call object.text function.text param.text value) statement

-- The instructions that a call with this number may stand for.
inductive Carries (value : Nat) : Instruction → Prop where
  | swap : Carries value (.swap value)
  | splice : Carries value (.splice value)
  | reverse : Carries value .reverse

end grammar

section statements
variable {statement : Text}

-- A call on the empty text that ends the statement.
theorem onEmpty_of_last {α : Type} {method : String} {read rest : Text} {value result : α} {stop : Cursor}
    (found : (value, stop) ∈ (onEmptyText method >>= fun _ => pure result) (.after read rest))
    (full : stop.rest = []) : value = result ∧ OnEmpty method rest := by
  simp only [onEmptyText, bind_then, literal_then, blanks_then, mem_pure] at found
  obtain ⟨_, rfl, _, rfl, gap, _, spans, _, rfl, gapBehind, _, spansBehind, tail, rfl, same⟩ := found
  obtain ⟨rfl, rfl⟩ := Prod.mk.inj same
  obtain rfl : tail = [] := full
  rw [spans.split, spansBehind.split, List.append_nil]
  exact ⟨rfl, .called spans.inside spansBehind.inside⟩

theorem spells_split {param : Text} (found : splitStatement.whole? statement = some (param, param)) :
    Spells (.split param) statement := by
  obtain ⟨stop, way, full⟩ := way_of_whole? found
  simp only [splitStatement, name_then, blanks_then, literal_then] at way
  obtain ⟨target, _, spansTarget, filled, gap, _, spansGap, _, rfl, gapBehind, _, spansBehind, source, _,
    spansSource, -, last⟩ := way
  obtain ⟨same, called⟩ := onEmpty_of_last last full
  obtain ⟨rfl, rfl⟩ := Prod.mk.inj same
  obtain ⟨word, rfl⟩ := exists_word spansTarget filled
  rw [spansTarget.split, spansGap.split, spansBehind.split, spansSource.split]
  exact .split (.split spansGap.inside spansBehind.inside called)

theorem spells_join {param : Text} (found : joinStatement.whole? statement = some param) :
    Spells (.join param) statement := by
  obtain ⟨stop, way, full⟩ := way_of_whole? found
  simp only [joinStatement, name_then, someBlanks_then, literal_then] at way
  obtain ⟨_, rfl, gap, _, spansGap, apart, param, _, spansWord, filled, last⟩ := way
  obtain ⟨rfl, called⟩ := onEmpty_of_last last full
  obtain ⟨word, rfl⟩ := exists_word spansWord filled
  rw [spansGap.split, spansWord.split]
  exact .join (.join spansGap.inside (List.length_pos_iff.mp apart) called)

theorem spells_call {object function param : Text} {numeral : Option Text} {value : Nat}
    (found : callStatement.whole? statement = some (object, function, param, numeral))
    (read : numeral.elim (some 0) (Text.readNat? argumentBound) = some value) :
    Spells (.call object function param value) statement := by
  obtain ⟨stop, way, full⟩ := way_of_whole? found
  simp only [callStatement, name_then, blanks_then, literal_then, optional_then, bind_then, digits_then,
    pure_then, mem_pure] at way
  obtain ⟨first, _, spansObject, filledObject, _, rfl, second, _, spansFunction, filledFunction, _, rfl,
    gap, _, spansGap, third, _, spansParam, filledParam, gapBehind, _, spansBehind, way⟩ := way
  obtain ⟨objectWord, rfl⟩ := exists_word spansObject filledObject
  obtain ⟨functionWord, rfl⟩ := exists_word spansFunction filledFunction
  obtain ⟨paramWord, rfl⟩ := exists_word spansParam filledParam
  rw [spansObject.split, spansFunction.split, spansGap.split, spansParam.split, spansBehind.split]
  rcases way with ⟨_, rfl, before, _, spansBefore, digits, _, spansDigits, -, after, _, spansAfter, tail,
    rfl, same⟩ | ⟨tail, rfl, same⟩
  · obtain ⟨parts, rfl⟩ := Prod.mk.inj same
    obtain rfl : tail = [] := full
    simp only [Prod.mk.injEq] at parts
    obtain ⟨rfl, rfl, rfl, rfl⟩ := parts
    obtain ⟨filled, decimal, fits, rfl⟩ := Text.readNat?_eq_some_iff.mp read
    have argument := Argument.numeral spansBefore.inside filled decimal fits spansAfter.inside
    rw [spansBefore.split, spansDigits.split, spansAfter.split, List.append_nil]
    simpa only [List.append_assoc] using
      Spells.call (.call spansGap.inside spansBehind.inside argument)
  · obtain ⟨parts, rfl⟩ := Prod.mk.inj same
    obtain rfl : tail = [] := full
    simp only [Prod.mk.injEq] at parts
    obtain ⟨rfl, rfl, rfl, rfl⟩ := parts
    obtain rfl : 0 = value := Option.some.inj read
    rw [List.append_nil]
    simpa only [List.nil_append] using
      Spells.call (.call spansGap.inside spansBehind.inside .missing)

-- A text is read as nothing else than what it spells.
theorem spells_of_read? {result : Statement} (read : Statement.read? statement = some result) :
    Spells result statement := by
  unfold Statement.read? at read
  cases split : splitStatement.whole? statement with
  | some parts =>
    obtain ⟨target, source⟩ := parts
    simp only [split, Option.ite_none_right_eq_some, Option.some.injEq] at read
    obtain ⟨rfl, rfl⟩ := read
    exact spells_split split
  | none =>
    cases join : joinStatement.whole? statement with
    | some param =>
      simp only [split, join, Option.some.injEq] at read
      obtain rfl := read
      exact spells_join join
    | none =>
      simp only [split, join, Option.bind_eq_bind, Option.bind_eq_some_iff] at read
      obtain ⟨⟨object, function, param, numeral⟩, call, read⟩ := read
      cases numeral with
      | none =>
        cases read
        exact spells_call call rfl
      | some digits =>
        obtain ⟨value, number, same⟩ := Option.bind_eq_some_iff.mp read
        cases same
        exact spells_call call number

end statements

section lists
variable {α β γ : Type} {R : α → β → Prop} {S : β → γ → Prop}

theorem forall₂_concat_right {items : List α} {others : List β} {last : β}
    (related : List.Forall₂ R items (others ++ [last])) :
    ∃ front item, items = front ++ [item] ∧ List.Forall₂ R front others ∧ R item last := by
  have reversed := List.forall₂_reverse_iff.mpr related
  rw [List.reverse_append, List.reverse_singleton, List.singleton_append,
    List.forall₂_cons_right_iff] at reversed
  obtain ⟨item, front, first, rest, same⟩ := reversed
  refine ⟨front.reverse, item, List.reverse_eq_cons_iff.mp same, ?_, first⟩
  rwa [← List.forall₂_reverse_iff, List.reverse_reverse]

theorem forall₂_comp {items : List α} {middle : List β} {results : List γ}
    (here : List.Forall₂ R items middle) (there : List.Forall₂ S middle results) :
    List.Forall₂ (fun item result => ∃ between, R item between ∧ S between result) items results := by
  induction here generalizing results with
  | nil =>
    cases there
    exact .nil
  | cons first _ ih =>
    cases there with
    | cons second later => exact .cons ⟨_, first, second⟩ (ih later)

end lists

section body
variable {param script body : Text} {instructions : List Instruction}

theorem carries_instruction (operation : Operation) (value : Nat) :
    Carries value (operation.instruction value) := by
  cases operation with
  | swap => exact .swap
  | splice => exact .splice
  | reverse => exact .reverse

-- Whatever is known of the names, each call gives one instruction.
theorem forall₂_of_instructions? {known : List (Text × Operation)} {calls : List Statement}
    (found : instructions? param script known calls = some instructions) :
    List.Forall₂ (fun call instruction => ∃ object function value,
      call = .call object function param value ∧ Carries value instruction) calls instructions := by
  induction calls generalizing known instructions with
  | nil =>
    cases found
    exact .nil
  | cons call calls ih =>
    cases call with
    | split | join => cases found
    | call object function argument value =>
      rw [instructions?] at found
      split at found
      · cases found
      · next same =>
        obtain rfl : argument = param := not_not.mp same
        split at found
        · next operation _ =>
          obtain ⟨rest, later, rfl⟩ := Option.map_eq_some_iff.mp found
          exact .cons ⟨_, _, _, rfl, carries_instruction operation value⟩ (ih later)
        · split at found
          · next operation _ =>
            obtain ⟨rest, later, rfl⟩ := Option.map_eq_some_iff.mp found
            exact .cons ⟨_, _, _, rfl, carries_instruction operation value⟩ (ih later)
          · cases found

theorem Spells.isJoin {param : Word} {statement : Text} (spells : Spells (.join param.text) statement) :
    IsJoin param statement := by
  generalize named : param.text = name at spells
  cases spells with
  | join here => exact Word.eq_of_text named ▸ here

theorem Spells.isCall {object function statement : Text} {param : Word} {value : Nat}
    (spells : Spells (.call object function param.text value) statement) :
    ∃ object function, IsCall object function param value statement := by
  generalize named : param.text = name at spells
  cases spells with
  | call here => exact ⟨_, _, Word.eq_of_text named ▸ here⟩

-- The statements between the first and the last are the calls, each with its instruction.
theorem statements_of_classify (simple : classify body script = some instructions) :
    ∃ (param : Word) (first : Text) (calls : List Text) (last : Text),
      statementsOf body = first :: (calls ++ [last]) ∧ IsSplit param first ∧ IsJoin param last ∧
        List.Forall₂ (fun call instruction => ∃ object function value,
          IsCall object function param value call ∧ Carries value instruction) calls instructions := by
  unfold classify at simple
  split at simple
  · next param rest read =>
    split at simple
    · next joined ends =>
      obtain ⟨rfl, found⟩ := Option.ite_none_right_eq_some.mp simple
      have whole := List.dropLast_append_getLast? _ ends
      have related := mapM_eq_some_iff.mp read
      rw [← whole, List.forall₂_cons_right_iff] at related
      obtain ⟨first, others, readFirst, readOthers, pieces⟩ := related
      obtain ⟨calls, last, rfl, readCalls, readLast⟩ := forall₂_concat_right readOthers
      cases spells_of_read? readFirst with
      | @split _ word here =>
        refine ⟨word, first, calls, last, pieces, here, (spells_of_read? readLast).isJoin, ?_⟩
        refine (forall₂_comp readCalls (forall₂_of_instructions? found)).imp ?_
        rintro call instruction ⟨_, readCall, object, function, value, rfl, carries⟩
        obtain ⟨object, function, here⟩ := (spells_of_read? readCall).isCall
        exact ⟨object, function, value, here, carries⟩
    · cases simple
  · cases simple

section blanks

def twoHelpers : Text :=
  "var O=\x7bp:function(a,b)\x7ba.splice(0,b)\x7d,r:function(a)\x7ba.reverse()\x7d\x7d;".toList

-- An empty statement, and blanks wherever they may stand.
def spacedBody : Text := "a = a.split( \"\" ) ;; O.p( a , 3 );O.r(a);\nreturn a.join(\"\" );".toList

theorem statements_of_classify_spaced :
    classify spacedBody twoHelpers = some [.splice 3, .reverse] ∧
      ∃ (param : Word) (first : Text) (calls : List Text) (last : Text),
        statementsOf spacedBody = first :: (calls ++ [last]) ∧ IsSplit param first ∧ IsJoin param last ∧
          List.Forall₂ (fun call instruction => ∃ object function value,
            IsCall object function param value call ∧ Carries value instruction) calls
              [.splice 3, .reverse] := by
  have simple : classify spacedBody twoHelpers = some [.splice 3, .reverse] := by decide
  exact ⟨simple, statements_of_classify simple⟩

end blanks

end body
end StreamLinks.Transform
