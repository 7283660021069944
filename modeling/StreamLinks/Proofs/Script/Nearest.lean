import StreamLinks.Proofs.Script.Markers
import StreamLinks.Proofs.Script.Openings
/-!
The definition before a guard that returns its argument.

A guard catches an error and returns the argument of the function around it, so the function is looked for by its last
definition with this argument before the guard. Where other definitions stand directly around that one, each behind the
brace of the one before, the search may have passed it over, and then the one directly around it is taken.
-/
namespace StreamLinks.Script
open Pattern

section last
variable {argument : Word} {script before front between after : Text} {names : List Word}
  {found : Match (Text × Text)} {opening known : Opening}

theorem lastBefore?_eq_some {α : Type} {starts : List (Match α)} (sorted : starts.Pairwise (·.start < ·.start))
    {found : Match α} {landmark : Nat} (present : found ∈ starts) (within : found.stop.offset ≤ landmark)
    (last : ∀ other ∈ starts, other.stop.offset ≤ landmark → other.start ≤ found.start) :
    lastBefore? starts landmark = some found := by
  have kept : found ∈ starts.filter fun found => found.stop.offset ≤ landmark := by simp [present, within]
  have sorted := sorted.filter fun found => found.stop.offset ≤ landmark
  unfold lastBefore?
  cases ends : (starts.filter fun found => found.stop.offset ≤ landmark).getLast? with
  | none =>
    rw [List.getLast?_eq_none_iff.mp ends] at kept
    cases kept
  | some final =>
    obtain ⟨front, split⟩ := List.getLast?_eq_some_iff.mp ends
    rw [split] at kept sorted
    rcases List.mem_append.mp kept with before | here
    · -- What comes before the last one starts before it.
      have known := List.mem_filter.mp (List.mem_of_getLast? ends)
      have later := (List.pairwise_append.mp sorted).2.2 found before final List.mem_cons_self
      exact absurd (last final known.1 (by simpa using known.2)) (Nat.not_le_of_lt later)
    · rw [List.mem_singleton.mp here]

-- Which name is taken where the definition of a word stands in a chain.
def takenName (word : Word) : List Word → Word
  | [] => word
  | outer :: names => if names.length % 2 = 0 then outer else word

theorem takenName_even {word : Word} (even : names.length % 2 = 0) : takenName word names = word := by
  cases names with
  | nil => rfl
  | cons outer names =>
    rw [List.length_cons] at even
    rw [takenName, if_neg (by omega)]

-- A definition that ends before the landmark stands in the text up to it.
theorem exists_of_within (present : found ∈ definitionsOf argument.text (before ++ after))
    (within : found.stop.offset ≤ before.length) : ∃ front rest, ∃ opening : Opening,
      before = front ++ (opening.text ++ rest) ∧ Free front ∧ opening.argument = argument ∧
        found = opening.located front (rest ++ after) := by
  obtain ⟨front, behind, opening, same, free, argued, rfl⟩ := mem_definitionsOf.mp present
  have shorter : (front ++ opening.text).length ≤ before.length := within
  rw [← List.append_assoc] at same
  obtain ⟨rest, rfl⟩ := List.prefix_of_prefix_length_le ⟨behind, same.symm⟩ (List.prefix_append before after) shorter
  rw [List.append_assoc] at same
  obtain rfl := List.append_cancel_left same
  exact ⟨front, rest, opening, List.append_assoc _ _ _, free, argued, rfl⟩

-- No other definition with this argument starts later in the text.
def LastIn (opening : Opening) (front text : Text) : Prop := ∀ other rest, ∀ known : Opening,
  text = other ++ (known.text ++ rest) → Free other → known.argument = opening.argument → other.length ≤ front.length

theorem apart_definitionsOf_sorted (argument script : Text) :
    (apart 0 (definitionsOf argument script)).Pairwise (·.start < ·.start) :=
  (definitionsOf_sorted argument script).sublist (apart_sublist 0 _)

-- The last definition is found if those directly around it are even in number.
theorem lastBefore?_even (free : Free front) (chained : Chained opening.argument names front)
    (last : LastIn opening front (front ++ (opening.text ++ between))) (even : names.length % 2 = 0) (after : Text) :
    lastBefore? (apart 0 (definitionsOf opening.argument.text (front ++ (opening.text ++ between) ++ after)))
      (front ++ (opening.text ++ between)).length = some (opening.located front (between ++ after)) := by
  have kept := (located_kept_iff chained free rfl (between ++ after)).mpr even
  rw [show front ++ (opening.text ++ (between ++ after)) = front ++ (opening.text ++ between) ++ after by simp] at kept
  refine lastBefore?_eq_some (apart_definitionsOf_sorted _ _) kept (by simp [Opening.located, Cursor.after]) ?_
  intro other keptOther within
  obtain ⟨start, rest, known, split, freeStart, argued, rfl⟩ :=
    exists_of_within ((apart_sublist 0 _).subset keptOther) within
  exact Nat.sub_le_sub_right (last start rest known split freeStart argued) 1

-- Else it is passed over, and the one directly around it is found.
theorem lastBefore?_odd (free : Free (front ++ known.text)) (freeAround : Free front)
    (argued : known.argument = opening.argument) (chained : Chained opening.argument names front)
    (last : LastIn opening (front ++ known.text) (front ++ known.text ++ (opening.text ++ between)))
    (even : names.length % 2 = 0) (after : Text) :
    lastBefore? (apart 0 (definitionsOf opening.argument.text
        (front ++ known.text ++ (opening.text ++ between) ++ after)))
      (front ++ known.text ++ (opening.text ++ between)).length =
        some (known.located front (opening.text ++ (between ++ after))) := by
  have text : front ++ (known.text ++ (opening.text ++ (between ++ after))) =
      front ++ known.text ++ (opening.text ++ between) ++ after := by simp
  have kept := (located_kept_iff chained freeAround argued (opening.text ++ (between ++ after))).mpr even
  rw [text] at kept
  refine lastBefore?_eq_some (apart_definitionsOf_sorted _ _) kept ?_ ?_
  · simp only [Opening.located, Cursor.after, List.length_append]
    omega
  · intro other keptOther within
    obtain ⟨start, rest, found, split, freeStart, arguedStart, rfl⟩ :=
      exists_of_within ((apart_sublist 0 _).subset keptOther) within
    refine Nat.sub_le_sub_right (Nat.le_of_not_lt fun later => ?_) 1
    have before := last start rest found split freeStart arguedStart
    rw [List.append_assoc] at split
    obtain ⟨rfl, same⟩ := eq_of_within freeStart split.symm later before
    obtain ⟨rfl, rfl⟩ := Opening.unique same
    -- What starts later is the last definition itself, and that is passed over.
    have passed := located_kept_iff (.inside known freeAround argued chained) free rfl (between ++ after)
    rw [show front ++ known.text ++ (opening.text ++ (between ++ after)) =
      front ++ known.text ++ (opening.text ++ between) ++ after by simp, List.length_cons] at passed
    have wrong := passed.mp keptOther
    omega

-- The last definition before the landmark if it is found, and else the one directly around it.
theorem lastBefore?_definitionsOf (free : Free front) (chained : Chained opening.argument names front)
    (last : LastIn opening front (front ++ (opening.text ++ between))) (after : Text) :
    (lastBefore? (apart 0 (definitionsOf opening.argument.text (front ++ (opening.text ++ between) ++ after)))
      (front ++ (opening.text ++ between)).length).map (·.value.1) = some (takenName opening.word names).text := by
  by_cases even : names.length % 2 = 0
  · rw [lastBefore?_even free chained last even, takenName_even even]
    rfl
  · cases chained with
    | outermost outside => exact absurd rfl even
    | @inside front names known freeAround argued outer =>
      have evenAround : names.length % 2 = 0 := by
        rw [List.length_cons] at even
        omega
      rw [lastBefore?_odd free freeAround argued outer last evenAround, takenName, if_pos evenAround]
      rfl

-- If a definition ends in a text, one of those with its argument is the last.
theorem exists_last {before front between : Text} {opening : Opening}
    (split : before = front ++ (opening.text ++ between)) (free : Free front) :
    ∃ start rest, ∃ known : Opening, before = start ++ (known.text ++ rest) ∧ Free start ∧
      known.argument = opening.argument ∧ LastIn known start before := by
  by_cases last : LastIn opening front before
  · exact ⟨front, between, opening, split, free, rfl, last⟩
  · simp only [LastIn, not_forall, Nat.not_le] at last
    obtain ⟨other, rest, known, splitOther, freeOther, argued, later⟩ := last
    obtain ⟨start, more, latest, splitLatest, freeLatest, same, last⟩ := exists_last splitOther freeOther
    exact ⟨start, more, latest, splitLatest, freeLatest, same.trans argued, last⟩
termination_by before.length - front.length
decreasing_by
  have long := known.two_le_length
  have within := congrArg List.length splitOther
  simp only [List.length_append] at within
  omega

-- Without an equals sign behind a definition no other one starts later.
theorem lastIn_of_no_sign (noSign : '=' ∉ between) : LastIn opening front (front ++ (opening.text ++ between)) := by
  intro other rest known split freeOther _
  refine Nat.le_of_not_lt fun later => ?_
  obtain ⟨inner, -, form⟩ := known.exists_sign
  rcases Nat.le_total other.length (front ++ opening.text).length with within | beyond
  · obtain ⟨-, rfl⟩ := eq_of_within freeOther split.symm later within
    exact noSign (by simp [form])
  · rw [← List.append_assoc] at split
    obtain ⟨more, rfl⟩ := List.prefix_of_prefix_length_le ⟨between, rfl⟩ ⟨known.text ++ rest, split.symm⟩ beyond
    rw [List.append_assoc (front ++ opening.text)] at split
    obtain rfl := List.append_cancel_left split
    exact noSign (by simp [form])

end last

section guards
variable {script front between guard after : Text} {opening : Opening} {names : List Word} {use : NameUse}

-- A guard that catches an error and returns the argument behind an element of a helper.
inductive CatchReturn (argument : Word) : Text → Prop where
  | catchReturn (error helper : Word) {beforeError behindError beforeBrace beforeReturn beforeHelper index beforePlus
      behindPlus beforeEnd : Text} (apart : ∀ gap ∈ [beforeError, behindError, beforeBrace, beforeReturn, beforeHelper,
        beforePlus, behindPlus, beforeEnd], Gap gap) (spaced : beforeHelper ≠ [])
      (digits : ∀ c ∈ index, Text.isDecimalDigit c = true) (indexed : index ≠ []) :
      CatchReturn argument ("catch(".toList ++ (beforeError ++ (error.text ++ (behindError ++ (")".toList ++
        (beforeBrace ++ ("\x7b".toList ++ (beforeReturn ++ ("return".toList ++ (beforeHelper ++ (helper.text ++
          ("[".toList ++ (index ++ ("]".toList ++ (beforePlus ++ ("+".toList ++ (behindPlus ++ (argument.text ++
            (beforeEnd ++ "\x7d".toList)))))))))))))))))))

theorem takes_catchReturn : Takes catchReturn fun value taken => ∃ argument : Word, value = argument.text ∧
    CatchReturn argument taken := by
  intro read rest way found
  simp only [catchReturn, subscript, literal_then, blanks_then, someBlanks_then, run_then, digits_then, name_then,
    bind_then, pure_then, mem_pure] at found
  obtain ⟨_, rfl, beforeError, _, spansFirst, error, _, spansError, filledError, behindError, _, spansSecond, _, rfl,
    beforeBrace, _, spansThird, _, rfl, beforeReturn, _, spansFourth, _, rfl, found⟩ := found
  obtain ⟨beforeHelper, _, spansFifth, spaced, helper, _, spansHelper, filledHelper, _, rfl, index, _, spansIndex,
    indexed, _, rfl, beforePlus, _, spansSixth, _, rfl, behindPlus, _, spansSeventh, argument, _, spansArgument,
    filledArgument, beforeEnd, _, spansEighth, tail, rfl, rfl⟩ := found
  obtain ⟨error, rfl⟩ := exists_word spansError filledError
  obtain ⟨helper, rfl⟩ := exists_word spansHelper filledHelper
  obtain ⟨argument, rfl⟩ := exists_word spansArgument filledArgument
  have apart : ∀ gap ∈ [beforeError, behindError, beforeBrace, beforeReturn, beforeHelper, beforePlus, behindPlus,
      beforeEnd], Gap gap := by
    simp only [List.forall_mem_cons]
    exact ⟨spansFirst.inside, spansSecond.inside, spansThird.inside, spansFourth.inside, spansFifth.inside,
      spansSixth.inside, spansSeventh.inside, spansEighth.inside, List.forall_mem_nil _⟩
  have returns : CatchReturn argument _ := .catchReturn error helper apart (List.length_pos_iff.mp spaced)
    spansIndex.inside (List.length_pos_iff.mp indexed)
  refine ⟨_, tail, ?_, ⟨argument, rfl, returns⟩, by simp only [List.append_assoc]⟩
  rw [spansFirst.split, spansError.split, spansSecond.split, spansThird.split, spansFourth.split, spansFifth.split,
    spansHelper.split, spansIndex.split, spansSixth.split, spansSeventh.split, spansArgument.split, spansEighth.split]
  simp only [List.append_assoc]

-- The definition that is found for a guard.
def definitionFor (script : Text) (guard : Match Text) : Option (Match (Text × Text)) :=
  lastBefore? (apart 0 (definitionsOf guard.value script)) guard.start

theorem nameByCatchReturn_eq (script : Text) : nameByCatchReturn script =
    (catchReturn.all script).findSome? fun guard =>
      (definitionFor script guard).map fun definition => ⟨definition.value.1, none⟩ := rfl

-- No function with the argument that the guard returns is defined before it.
def Undefined (script : Text) (guard : Match Text) : Prop := ∀ front rest, ∀ opening : Opening,
  script.take guard.start = front ++ (opening.text ++ rest) → Free front → opening.argument.text ≠ guard.value

-- What a definition is found for: it ends before the guard, and then the last one does.
theorem exists_of_definitionFor {before : Text} {argument : Word} {found : Match Text}
    {definition : Match (Text × Text)} (value : found.value = argument.text) (start : found.start = before.length)
    (taken : definitionFor (before ++ after) found = some definition) :
    ∃ front between, ∃ opening : Opening, before = front ++ (opening.text ++ between) ∧ Free front ∧
      opening.argument = argument ∧ LastIn opening front before := by
  have kept := List.mem_filter.mp (List.mem_of_getLast? taken)
  have present := (apart_sublist 0 _).subset kept.1
  rw [value] at present
  have within : definition.stop.offset ≤ before.length := by simpa [start] using kept.2
  obtain ⟨front, rest, opening, split, free, argued, -⟩ := exists_of_within present within
  obtain ⟨start, between, known, splitLast, freeLast, same, last⟩ := exists_last split free
  exact ⟨start, between, known, splitLast, freeLast, same.trans argued, last⟩

theorem definitionFor_last {found : Match Text} (value : found.value = opening.argument.text)
    (start : found.start = (front ++ (opening.text ++ between)).length) (free : Free front)
    (last : LastIn opening front (front ++ (opening.text ++ between)))
    (chained : Chained opening.argument names front) (after : Text) :
    (definitionFor (front ++ (opening.text ++ between) ++ after) found).map (·.value.1) =
      some (takenName opening.word names).text := by
  rw [definitionFor, value, start]
  exact lastBefore?_definitionsOf free chained last after

theorem definitionFor_eq_none_iff {found : Match Text} (kept : found ∈ catchReturn.all script) :
    definitionFor script found = none ↔ Undefined script found := by
  obtain ⟨before, guard, after, rfl, ⟨argument, value, -⟩, start, -⟩ := takes_catchReturn.of_mem_all kept
  have upTo : (before ++ (guard ++ after)).take found.start = before := by rw [start, List.take_left]
  rw [Undefined, upTo]
  constructor
  · intro none front rest opening split free argued
    obtain ⟨begins, between, known, rfl, freeLast, same, last⟩ := exists_last split free
    obtain ⟨names, chained⟩ := exists_chained known.argument begins
    have returned : found.value = known.argument.text := by rw [same, argued]
    have taken := definitionFor_last returned start freeLast last chained (guard ++ after)
    rw [none] at taken
    cases taken
  · intro undefined
    cases taken : definitionFor (before ++ (guard ++ after)) found with
    | none => rfl
    | some definition =>
      obtain ⟨front, between, opening, split, free, argued, -⟩ := exists_of_definitionFor value start taken
      exact absurd (by rw [argued, value]) (undefined front between opening split free)

-- Where a name comes from: the last definition before the first guard that has one before it, in a chain of
-- definitions that stand directly around it.
structure Caught (script front : Text) (opening : Opening) (between guard after : Text) (names : List Word) : Prop where
  split : script = front ++ (opening.text ++ between) ++ (guard ++ after)
  free : Free front
  last : LastIn opening front (front ++ (opening.text ++ between))
  returns : CatchReturn opening.argument guard
  first : ∃ earlier found later, catchReturn.all script = earlier ++ found :: later ∧
    (∀ other ∈ earlier, Undefined script other) ∧ found.start = (front ++ (opening.text ++ between)).length ∧
      found.value = opening.argument.text
  chained : Chained opening.argument names front

theorem nameByCatchReturn_eq_some_iff : nameByCatchReturn script = some use ↔ ∃ front opening between guard after names,
    Caught script front opening between guard after names ∧ use = ⟨(takenName opening.word names).text, none⟩ := by
  rw [nameByCatchReturn_eq]
  constructor
  · intro taken
    obtain ⟨earlier, found, later, all, here, unnamed⟩ := List.findSome?_eq_some_iff.mp taken
    have kept : found ∈ catchReturn.all script := by simp [all]
    have undefined : ∀ other ∈ earlier, Undefined script other := fun other present =>
      (definitionFor_eq_none_iff (all ▸ List.mem_append_left _ present)).mp
        (Option.map_eq_none_iff.mp (unnamed other present))
    obtain ⟨before, guard, after, rfl, ⟨argument, value, returns⟩, start, -⟩ := takes_catchReturn.of_mem_all kept
    obtain ⟨definition, located, rfl⟩ := Option.map_eq_some_iff.mp here
    obtain ⟨front, between, opening, rfl, free, rfl, last⟩ := exists_of_definitionFor value start located
    obtain ⟨names, chained⟩ := exists_chained opening.argument front
    have name := definitionFor_last value start free last chained (guard ++ after)
    rw [located] at name
    exact ⟨front, opening, between, guard, after, names,
      ⟨rfl, free, last, returns, ⟨earlier, found, later, all, undefined, start, value⟩, chained⟩,
      by rw [← Option.some.inj name]⟩
  · rintro ⟨front, opening, between, guard, after, names, ⟨rfl, free, last, -, first, chained⟩, rfl⟩
    obtain ⟨earlier, found, later, all, undefined, start, value⟩ := first
    refine List.findSome?_eq_some_iff.mpr ⟨earlier, found, later, all, ?_, ?_⟩
    · have name := definitionFor_last value start free last chained (guard ++ after)
      obtain ⟨definition, located, same⟩ := Option.map_eq_some_iff.mp name
      rw [located, Option.map_some, same]
    · intro other present
      rw [Option.map_eq_none_iff]
      exact (definitionFor_eq_none_iff (all ▸ List.mem_append_left _ present)).mpr (undefined other present)

theorem takenName_eq_iff {word : Word} :
    (takenName word names).text = word.text ↔ names.length % 2 = 0 ∨ names.head? = some word := by
  cases names with
  | nil => simp [takenName]
  | cons outer names =>
    rw [takenName, List.length_cons, List.head?_cons, Option.some.injEq]
    by_cases even : names.length % 2 = 0
    · rw [if_pos even]
      constructor
      · exact fun same => .inr (Word.eq_of_text same)
      · rintro (wrong | rfl)
        · omega
        · rfl
    · rw [if_neg even]
      exact iff_of_true rfl (.inl (by omega))

-- The name is that of the last definition before the guard exactly if the definitions directly around it are even in
-- number, or the nearest of them has the same name. Else it is the name of this one.
theorem nearest_taken_iff (taken : nameByCatchReturn script = some use) : ∃ front opening between guard after names,
    Caught script front opening between guard after names ∧
      use = ⟨(takenName opening.word names).text, none⟩ ∧
        (use.name = opening.word.text ↔ names.length % 2 = 0 ∨ names.head? = some opening.word) := by
  obtain ⟨front, opening, between, guard, after, names, caught, rfl⟩ := nameByCatchReturn_eq_some_iff.mp taken
  exact ⟨front, opening, between, guard, after, names, caught, rfl, takenName_eq_iff⟩

section rows

def namedWord (c : Char) (name : isNameChar c = true) : Word := ⟨[c], List.cons_ne_nil _ _, by simpa using name⟩

-- Two functions, each directly behind the brace of the one before, and three of them.
def twoInRow : Text := ";A=function(e)\x7bB=function(e)\x7btry\x7bx\x7dcatch(f)\x7breturn Q[3]+e\x7d\x7d\x7d".toList

def threeInRow : Text :=
  ";A=function(e)\x7bB=function(e)\x7bC=function(e)\x7btry\x7bx\x7dcatch(f)\x7breturn Q[3]+e\x7d\x7d\x7d\x7d".toList

theorem nearest_taken_iff_three : nameByCatchReturn threeInRow = some ⟨['C'], none⟩ ∧
    ∃ front opening between guard after names, Caught threeInRow front opening between guard after names ∧
      (⟨['C'], none⟩ : NameUse) = ⟨(takenName opening.word names).text, none⟩ ∧
        (['C'] = opening.word.text ↔ names.length % 2 = 0 ∨ names.head? = some opening.word) := by
  have taken : nameByCatchReturn threeInRow = some ⟨['C'], none⟩ := by decide
  exact ⟨taken, nearest_taken_iff taken⟩

def plainOpening (word argument : Word) : Opening := ⟨word, argument, [], [], [], [], [], by simp [Gap]⟩

theorem second_in_row_missed : nameByCallSite twoInRow = none ∧ nameByMarkedReturn twoInRow = none ∧
    nameByCatchReturn twoInRow = some ⟨['A'], none⟩ ∧ functionName? .throttle twoInRow = some ['A'] ∧
      ∃ front opening between guard after, twoInRow = front ++ (opening.text ++ between) ++ (guard ++ after) ∧
        Free front ∧ LastIn opening front (front ++ (opening.text ++ between)) ∧ CatchReturn opening.argument guard ∧
          (catchReturn.all twoInRow).map (·.start) = [(front ++ (opening.text ++ between)).length] ∧
            opening.word.text = ['B'] := by
  refine ⟨by decide, by decide, by decide, by decide, ";A=function(e)\x7b".toList,
    plainOpening (namedWord 'B' rfl) (namedWord 'e' rfl), "try\x7bx\x7d".toList, "catch(f)\x7breturn Q[3]+e\x7d".toList,
    "\x7d\x7d".toList, by decide, ?_, lastIn_of_no_sign (by decide), ?_, by decide, rfl⟩
  · intro c present
    cases present
    rfl
  · have parts : "catch(f)\x7breturn Q[3]+e\x7d".toList = "catch(".toList ++ ([] ++ (['f'] ++ ([] ++ (")".toList ++
        ([] ++ ("\x7b".toList ++ ([] ++ ("return".toList ++ ([' '] ++ (['Q'] ++ ("[".toList ++ (['3'] ++ ("]".toList ++
          ([] ++ ("+".toList ++ ([] ++ (['e'] ++ ([] ++ "\x7d".toList)))))))))))))))))) := by decide
    rw [parts]
    exact .catchReturn (namedWord 'f' rfl) (namedWord 'Q' rfl) (by simp [Gap]; decide) (by decide)
      (List.all_eq_true.mp rfl) (by decide)

end rows

end guards
end StreamLinks.Script
