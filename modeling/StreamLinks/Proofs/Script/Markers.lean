import StreamLinks.Proofs.Script.Guards
import StreamLinks.Proofs.Script.Pairing
import StreamLinks.Proofs.Text.Cutting
import StreamLinks.Script.FunctionName
/-!
Names that are taken from a marker.

A function that holds a marked return or a guard is looked for by its last start before the marker, with no
closing brace and semicolon between the two. That the marker stands in the body of this function is another
matter: a body may close without a semicolon behind it, and the semicolon of a guard is its own.
-/
namespace StreamLinks.Script
open Pattern

section taking
variable {α : Type}

-- Each way of a pattern takes a text of a shape that tells its value.
def Takes (p : Pattern α) (Shape : α → Text → Prop) : Prop := ∀ (read rest : Text) (way : α × Cursor),
  way ∈ p (.after read rest) → ∃ taken tail, rest = taken ++ tail ∧ Shape way.1 taken ∧
    way.2 = .after (read ++ taken) tail

theorem check_then {β : Type} {condition : Bool} {next : Unit → Pattern β} {way : β × Cursor} {place : Cursor} :
    way ∈ (check condition >>= next) place ↔ condition = true ∧ way ∈ next () place := by
  rw [mem_bind]
  cases condition with
  | false => simp [check]
  | true =>
    constructor
    · rintro ⟨_, _, here, found⟩
      cases List.mem_singleton.mp here
      exact ⟨rfl, found⟩
    · rintro ⟨-, found⟩
      exact ⟨(), place, List.mem_singleton.mpr rfl, found⟩

theorem Takes.split {β : Type} {p : Pattern α} {Shape : α → Text → Prop} (takes : Takes p Shape)
    {next : α → Pattern β} {read rest : Text} {way : β × Cursor}
    (found : way ∈ (p >>= next) (.after read rest)) : ∃ value taken tail, rest = taken ++ tail ∧
      Shape value taken ∧ way ∈ next value (.after (read ++ taken) tail) := by
  obtain ⟨value, stop, first, behind⟩ := mem_bind.mp found
  obtain ⟨taken, tail, split, shape, stops⟩ := takes _ _ _ first
  dsimp only at shape stops
  rw [stops] at behind
  exact ⟨value, taken, tail, split, shape, behind⟩

-- A match that is kept, as the text it takes.
theorem Takes.of_mem_all {p : Pattern α} {Shape : α → Text → Prop} (takes : Takes p Shape) {text : Text}
    {found : Match α} (kept : found ∈ all p text) : ∃ before taken after, text = before ++ (taken ++ after) ∧
      Shape found.value taken ∧ found.start = before.length ∧ found.stop = .after (before ++ taken) after := by
  obtain ⟨before, rest, rfl, start, way⟩ := way_of_mem_everywhere (mem_all_iff.mp kept).1
  obtain ⟨taken, after, rfl, shape, stop⟩ := takes _ _ _ way
  exact ⟨before, taken, after, rfl, shape, start, stop⟩

end taking

section openings

-- The parameter of a function, with blanks around it.
inductive Parameter : Text → Prop where
  | parameter (word : Word) {gap gapBehind : Text} (apart : Gap gap) (apartBehind : Gap gapBehind) :
      Parameter (gap ++ (word.text ++ gapBehind))

-- A definition from its name to its opening brace.
inductive OpensBody (word : Word) : Text → Prop where
  | opensBody {gap gapBehind parameter gapBrace : Text} (apart : Gap gap) (apartBehind : Gap gapBehind)
      (parametric : Parameter parameter) (apartBrace : Gap gapBrace) :
      OpensBody word (word.text ++ (gap ++ ("=".toList ++ (gapBehind ++ ("function(".toList ++ (parameter ++
        (")".toList ++ (gapBrace ++ "\x7b".toList))))))))

variable {opening parameter : Pattern Unit} {word : Pattern Text}

theorem takes_functionStart (opens : Takes opening fun _ _ => True)
    (named : Takes word fun name taken => name = taken ∧ ∃ word : Word, word.text = taken)
    (parametric : Takes parameter fun _ taken => Parameter taken) :
    Takes (functionStart opening word parameter) fun name taken => ∃ front head, taken = front ++ head ∧
      ∃ word : Word, name = word.text ∧ OpensBody word head := by
  intro read rest way found
  obtain ⟨_, front, _, rfl, -, found⟩ := opens.split found
  obtain ⟨name, _, _, rfl, ⟨rfl, word, rfl⟩, found⟩ := named.split found
  simp only [blanks_then, literal_then] at found
  obtain ⟨gap, _, spans, _, rfl, gapBehind, _, spansBehind, _, rfl, found⟩ := found
  obtain ⟨_, taken, _, rfl, parametric, found⟩ := parametric.split found
  simp only [blanks_then, literal_then, mem_pure] at found
  obtain ⟨_, rfl, gapBrace, _, spansBrace, tail, rfl, rfl⟩ := found
  have opened : OpensBody word _ := .opensBody spans.inside spansBehind.inside parametric spansBrace.inside
  refine ⟨front ++ _, tail, ?_, ⟨front, _, rfl, word, rfl, opened⟩, ?_⟩
  · rw [spans.split, spansBehind.split, spansBrace.split]
    simp
  · simp

theorem takes_name : Takes name fun found taken => found = taken ∧ ∃ word : Word, word.text = taken := by
  intro read rest way found
  obtain ⟨taken, tail, spans, filled, rfl⟩ := mem_taken_atLeast_every.mp found
  exact ⟨taken, tail, spans.split, ⟨rfl, exists_word spans filled⟩, rfl⟩

theorem takes_shortName : Takes (taken (exactly 3 (every isNameChar)))
    fun found taken => found = taken ∧ ∃ word : Word, word.text = taken := by
  intro read rest way found
  obtain ⟨_, stop, present, rfl⟩ := mem_taken.mp found
  obtain ⟨here, exact⟩ := List.mem_filter.mp present
  obtain ⟨word, tail, spans, same⟩ := mem_every.mp here
  cases same
  rw [spans.split] at exact ⊢
  have length : word.length = 3 := by simpa [Cursor.after, eq_comm] using exact
  exact ⟨word, tail, rfl, ⟨take_between read word tail, exists_word spans (by omega)⟩, rfl⟩

theorem takes_semicolon : Takes (do literal ";"; blanks) fun _ _ => True := by
  intro read rest way found
  obtain ⟨_, rfl, blank⟩ := literal_then.mp found
  obtain ⟨gap, tail, spans, rfl⟩ := mem_every.mp blank
  exact ⟨";".toList ++ gap, tail, by rw [spans.split, List.append_assoc], trivial, by rw [List.append_assoc]⟩

theorem takes_bareStart : Takes bareStart fun _ _ => True := by
  intro read rest way found
  rcases mem_either.mp found with atStart | found
  · obtain ⟨-, rfl⟩ := mem_start.mp atStart
    exact ⟨[], rest, rfl, trivial, by rw [List.append_nil]⟩
  · obtain ⟨c, tail, rfl, -, rfl⟩ := mem_one.mp found
    exact ⟨[c], tail, rfl, trivial, rfl⟩

theorem takes_parameter : Takes (run isNameChar) fun _ taken => Parameter taken := by
  intro read rest way found
  obtain ⟨taken, tail, spans, filled, rfl⟩ := mem_run.mp found
  obtain ⟨word, rfl⟩ := exists_word spans filled
  have parameter : Parameter ([] ++ (word.text ++ [])) := .parameter word (by simp [Gap]) (by simp [Gap])
  rw [List.nil_append, List.append_nil] at parameter
  exact ⟨word.text, tail, spans.split, parameter, rfl⟩

theorem takes_spacedParameter : Takes (do blanks; run isNameChar; blanks) fun _ taken => Parameter taken := by
  intro read rest way found
  obtain ⟨gap, _, spans, found⟩ := blanks_then.mp found
  obtain ⟨taken, _, spansWord, filled, found⟩ := run_then.mp found
  obtain ⟨gapBehind, tail, spansBehind, rfl⟩ := mem_every.mp found
  obtain ⟨word, rfl⟩ := exists_word spansWord filled
  refine ⟨_, tail, ?_, .parameter word spans.inside spansBehind.inside, by simp only [List.append_assoc]⟩
  rw [spans.split, spansWord.split, spansBehind.split]
  simp only [List.append_assoc]

end openings

section markers

-- A quoted word that ends in the mark, with a name behind it: what a marked function returns.
inductive MarkedReturn : Text → Prop where
  | markedReturn (name : Word) {gap front gapBefore gapBehind : Text} {quote closing : Char} (apart : Gap gap)
      (opens : quote = '"' ∨ quote = '\'') (wide : ∀ c ∈ front, Text.isWordChar c = true ∨ c = '-')
      (filled : front ≠ []) (closes : closing = '"' ∨ closing = '\'') (apartBefore : Gap gapBefore)
      (apartBehind : Gap gapBehind) :
      MarkedReturn ("return".toList ++ (gap ++ (quote :: (front ++ ("_w8_".toList ++ (closing :: (gapBefore ++
        ("+".toList ++ (gapBehind ++ name.text)))))))))

theorem takes_markedReturn : Takes markedReturn fun _ taken => MarkedReturn taken := by
  intro read rest way found
  simp only [markedReturn, literal_then, blanks_then, one_then, taken_atLeast_every_then, check_then, mem_run,
    Bool.or_eq_true, beq_iff_eq] at found
  obtain ⟨_, rfl, gap, _, spans, quote, _, rfl, opens, word, _, spansWord, long, marked, closing, _, rfl, closes,
    gapBefore, _, spansBefore, _, rfl, gapBehind, _, spansBehind, name, tail, spansName, filled, rfl⟩ := found
  obtain ⟨name, rfl⟩ := exists_word spansName filled
  obtain ⟨front, reversed⟩ := Option.isSome_iff_exists.mp marked
  obtain rfl : word = front.reverse ++ "_w8_".toList := by
    rw [← List.reverse_reverse word, Text.eq_append_of_after? reversed]
    simp
  have wide : ∀ c ∈ front.reverse, Text.isWordChar c = true ∨ c = '-' := by
    intro c present
    simpa using spansWord.inside c (List.mem_append_left _ present)
  have more : front.reverse ≠ [] := by
    intro empty
    simp [empty] at long
  refine ⟨_, tail, ?_, .markedReturn name spans.inside opens wide more closes spansBefore.inside spansBehind.inside,
    by simp⟩
  rw [spans.split, spansWord.split, spansBefore.split, spansBehind.split, spansName.split]
  simp

-- A guard with the semicolons around it.
def GuardMark (text : Text) : Prop := ∃ guard, Guard guard ∧ text = ';' :: (guard ++ [';'])

theorem takes_guardPattern : Takes guardPattern fun _ taken => GuardMark taken := by
  intro read rest way found
  obtain ⟨guard, tail, rfl, here, rfl⟩ := mem_guardPattern.mp found
  exact ⟨';' :: (guard ++ [';']), tail, by simp, ⟨guard, here, rfl⟩, rfl⟩

theorem MarkedReturn.no_brace {text : Text} (marked : MarkedReturn text) : '}' ∉ text := by
  cases marked with
  | @markedReturn name gap front gapBefore gapBehind quote closing apart opens wide filled closes apartBefore
      apartBehind =>
    have inFront : '}' ∉ front := by
      intro present
      rcases wide _ present with word | dash
      · cases word
      · cases dash
    have quotes : '}' ≠ quote ∧ '}' ≠ closing := by
      constructor
      · rcases opens with rfl | rfl <;> decide
      · rcases closes with rfl | rfl <;> decide
    simp [not_mem_of_all apart, not_mem_of_all apartBefore, not_mem_of_all apartBehind, not_mem_of_all name.plain,
      inFront, quotes, show Text.isBlank '}' = false from rfl, show isNameChar '}' = false from rfl]

theorem GuardMark.no_brace {text : Text} (marked : GuardMark text) : '}' ∉ text := by
  obtain ⟨guard, here, rfl⟩ := marked
  have outside := here.not_mem (c := '}') (.of_decide rfl (by decide))
  simp [outside]

end markers

section attempts

-- The two attempts that take a name from a marker.
inductive Attempt where
  | markedReturn
  | guard

namespace Attempt

def name? : Attempt → Text → Option NameUse
  | markedReturn => nameByMarkedReturn
  | guard => nameByGuard

-- The starts of definitions that are looked at.
def starts : Attempt → Text → List (Match Text)
  | markedReturn => (functionStart (do literal ";"; blanks) name (run isNameChar)).all
  | guard => (functionStart bareStart (taken (exactly 3 (every isNameChar))) (do blanks; run isNameChar; blanks)).all

def markers : Attempt → Text → List (Match Unit)
  | markedReturn => Script.markedReturn.all
  | guard => guardPattern.all

def Marker : Attempt → Text → Prop
  | markedReturn => MarkedReturn
  | guard => GuardMark

variable (attempt : Attempt) {script : Text}

theorem name?_eq (script : Text) : attempt.name? script = (attempt.markers script).findSome? fun found =>
    enclosingName (attempt.starts script) found.start := by
  cases attempt <;> rfl

theorem exists_start {start : Match Text} (kept : start ∈ attempt.starts script) :
    ∃ before head after word, script = before ++ (head ++ after) ∧ OpensBody word head ∧
      start.value = word.text ∧ start.stop = .after (before ++ head) after := by
  have shape : ∃ before taken after, script = before ++ (taken ++ after) ∧
      (∃ front head, taken = front ++ head ∧ ∃ word : Word, start.value = word.text ∧ OpensBody word head) ∧
        start.start = before.length ∧ start.stop = .after (before ++ taken) after := by
    cases attempt with
    | markedReturn => exact (takes_functionStart takes_semicolon takes_name takes_parameter).of_mem_all kept
    | guard => exact (takes_functionStart takes_bareStart takes_shortName takes_spacedParameter).of_mem_all kept
  obtain ⟨before, _, after, rfl, ⟨front, head, rfl, word, named, opens⟩, -, stop⟩ := shape
  exact ⟨before ++ front, head, after, word, by simp only [List.append_assoc], opens, named,
    by rw [stop, List.append_assoc]⟩

theorem exists_marker {found : Match Unit} (kept : found ∈ attempt.markers script) :
    ∃ before marker after, script = before ++ (marker ++ after) ∧ attempt.Marker marker ∧
      found.start = before.length := by
  cases attempt with
  | markedReturn =>
    obtain ⟨before, marker, after, split, marked, start, -⟩ := takes_markedReturn.of_mem_all kept
    exact ⟨before, marker, after, split, marked, start⟩
  | guard =>
    obtain ⟨before, marker, after, split, marked, start, -⟩ := takes_guardPattern.of_mem_all kept
    exact ⟨before, marker, after, split, marked, start⟩

theorem no_brace {marker : Text} (marked : attempt.Marker marker) : '}' ∉ marker := by
  cases attempt with
  | markedReturn => exact MarkedReturn.no_brace marked
  | guard => exact GuardMark.no_brace marked

end Attempt

-- Where a name comes from: the first marker behind which an attempt finds a definition without an end in
-- between, and the last definition that starts before it.
structure Origin (attempt : Attempt) (script : Text) (word : Word) (before head between marker after : Text) :
    Prop where
  split : script = before ++ (head ++ (between ++ (marker ++ after)))
  opens : OpensBody word head
  marked : attempt.Marker marker
  unended : ¬ "\x7d;".toList <:+: between
  first : ∃ earlier found later, attempt.markers script = earlier ++ found :: later ∧
    (∀ other ∈ earlier, enclosingName (attempt.starts script) other.start = none) ∧
      found.start = (before ++ head ++ between).length
  nearest : (lastBefore? (attempt.starts script) (before ++ head ++ between).length).map (·.stop.offset) =
    some (before ++ head).length

theorem exists_origin {attempt : Attempt} {script : Text} {use : NameUse} (taken : attempt.name? script = some use) :
    ∃ word before head between marker after, use = ⟨word.text, none⟩ ∧
      Origin attempt script word before head between marker after := by
  rw [attempt.name?_eq, List.findSome?_eq_some_iff] at taken
  obtain ⟨earlier, found, later, all, here, unnamed⟩ := taken
  have kept : found ∈ attempt.markers script := by simp [all]
  obtain ⟨passed, marker, after, split, marked, start⟩ := attempt.exists_marker kept
  cases nearest : lastBefore? (attempt.starts script) found.start with
  | none => simp [enclosingName, nearest] at here
  | some definition =>
    have known := List.mem_filter.mp (List.mem_of_getLast? nearest)
    obtain ⟨before, head, rest, word, splitHere, opens, named, stop⟩ := attempt.exists_start known.1
    have within : definition.stop.offset ≤ found.start := by simpa using known.2
    rw [stop, start] at within
    have both : before ++ head ++ rest = passed ++ (marker ++ after) := by
      rw [← split, splitHere, List.append_assoc]
    -- The definition ends where the marker starts or before it.
    obtain ⟨between, rfl⟩ : before ++ head <+: passed :=
      List.prefix_of_prefix_length_le ⟨rest, both⟩ (List.prefix_append _ _) within
    rw [List.append_assoc _ between] at both
    obtain rfl := List.append_cancel_left both
    have taken : found.start - definition.stop.offset = between.length := by
      rw [start, stop]
      simp only [Cursor.after, List.length_append]
      omega
    have inside : definition.stop.rest.take between.length = between := by simp [stop]
    simp only [enclosingName, nearest, taken, inside] at here
    split at here
    · cases here
    · next unended =>
      refine ⟨word, before, head, between, marker, after, ?_, splitHere, opens, marked, ?_,
        ⟨earlier, found, later, all, unnamed, start⟩, ?_⟩
      · rw [← Option.some.inj here, named]
      · rw [Text.contains, Bool.not_eq_true, Option.isSome_eq_false_iff, Option.isNone_iff_eq_none] at unended
        exact Text.cut_eq_none.mp unended
      · rw [← start, nearest, Option.map_some, stop]
        rfl

-- The marker stands behind the opening brace and before the brace that is found to close it.
def StandsInside (between marker after : Text) : Prop := ∃ closing,
  matchingBrace ('{' :: (between ++ (marker ++ after))) = some closing ∧ (between ++ marker).length < closing

-- The body ends before the marker, with a brace that no semicolon follows there.
def EndsBefore (between marker after : Text) : Prop := ∃ body more,
  between = body ++ '}' :: more ∧ more.head? ≠ some ';' ∧ Partners body (more ++ (marker ++ after))

theorem standsInside_iff {between marker after : Text} (clean : '}' ∉ marker)
    (unended : ¬ "\x7d;".toList <:+: between) : StandsInside between marker after ↔
      (matchingBrace ('{' :: (between ++ (marker ++ after)))).isSome = true ∧ ¬ EndsBefore between marker after := by
  constructor
  · rintro ⟨closing, closes, behind⟩
    refine ⟨Option.isSome_iff_exists.mpr ⟨closing, closes⟩, ?_⟩
    rintro ⟨body, more, rfl, -, partners⟩
    have first := partners_iff.mp partners
    simp only [List.append_assoc, List.cons_append] at closes
    rw [first] at closes
    obtain rfl := Option.some.inj closes
    simp only [List.length_append, List.length_cons] at behind
    omega
  · rintro ⟨closed, endsLater⟩
    obtain ⟨closing, closes⟩ := Option.isSome_iff_exists.mp closed
    refine ⟨closing, closes, ?_⟩
    obtain ⟨body, behind, split, rfl, partners⟩ := exists_partners closes
    rcases List.append_eq_append_iff.mp split with ⟨others, rfl, within⟩ | ⟨others, rfl, same⟩
    · -- Behind the text in between, the brace is not in the marker.
      rcases List.append_eq_append_iff.mp within with ⟨front, rfl, -⟩ | ⟨front, rfl, same⟩
      · simp only [List.length_append]
        omega
      · cases front with
        | nil => simp
        | cons c front =>
          obtain ⟨rfl, -⟩ := List.cons.inj same
          exact absurd (by simp) clean
    · cases others with
      | nil =>
        cases marker with
        | nil => simp
        | cons c marker =>
          obtain ⟨rfl, -⟩ := List.cons.inj same
          exact absurd List.mem_cons_self clean
      | cons c more =>
        obtain ⟨rfl, rfl⟩ := List.cons.inj same
        refine absurd ⟨body, more, rfl, ?_, partners⟩ endsLater
        intro semicolon
        obtain ⟨later, rfl⟩ := List.head?_eq_some_iff.mp semicolon
        exact unended ⟨body, later, by simp⟩

theorem standsInside_of_taken {attempt : Attempt} {script : Text} {use : NameUse}
    (taken : attempt.name? script = some use) : ∃ word before head between marker after,
      use = ⟨word.text, none⟩ ∧ Origin attempt script word before head between marker after ∧
        (StandsInside between marker after ↔
          (matchingBrace ('{' :: (between ++ (marker ++ after)))).isSome = true ∧
            ¬ EndsBefore between marker after) := by
  obtain ⟨word, before, head, between, marker, after, named, origin⟩ := exists_origin taken
  exact ⟨word, before, head, between, marker, after, named, origin,
    standsInside_iff (attempt.no_brace origin.marked) origin.unended⟩

section outside

-- A marked function behind a comma, and one that is not marked before it.
def commaScript : Text := ";Ab=function(a)\x7breturn a\x7d,Cd=function(b)\x7breturn\"x_w8_\"+b\x7d;".toList

-- A guard directly behind a function.
def adjacentScript : Text := ";Abc=function(a)\x7breturn a\x7d;if(typeof Kx===\"undefined\")return a;".toList

theorem standsInside_of_taken_comma : Attempt.markedReturn.name? commaScript = some ⟨"Ab".toList, none⟩ ∧
    ∃ word before head between marker after, (⟨"Ab".toList, none⟩ : NameUse) = ⟨word.text, none⟩ ∧
      Origin .markedReturn commaScript word before head between marker after ∧
        (StandsInside between marker after ↔
          (matchingBrace ('{' :: (between ++ (marker ++ after)))).isSome = true ∧
            ¬ EndsBefore between marker after) := by
  have characters : commaScript = _ := String.toList_ofList
  have taken : Attempt.markedReturn.name? commaScript = some ⟨"Ab".toList, none⟩ := by
    rw [characters]
    decide
  exact ⟨taken, standsInside_of_taken taken⟩

theorem not_standsInside {between marker after : Text} (closing : Nat)
    (closes : matchingBrace ('{' :: (between ++ (marker ++ after))) = some closing)
    (before : closing ≤ (between ++ marker).length) : ¬ StandsInside between marker after := by
  rintro ⟨other, there, behind⟩
  obtain rfl := Option.some.inj (closes.symm.trans there)
  omega

theorem taken_from_outside :
    (functionName? .throttle commaScript = some "Ab".toList ∧ nameByCallSite commaScript = none ∧
      nameByMarkedReturn commaScript = some ⟨"Ab".toList, none⟩ ∧
      ∃ between marker after, commaScript = ";Ab=function(a)\x7b".toList ++ (between ++ (marker ++ after)) ∧
        (Attempt.markedReturn.markers commaScript).map (·.start) = [";Ab=function(a)\x7b".length + between.length] ∧
          (Attempt.markedReturn.starts commaScript).map (·.stop.offset) = [";Ab=function(a)\x7b".length] ∧
            ¬ StandsInside between marker after) ∧
    (functionName? .throttle adjacentScript = some "Abc".toList ∧ nameByCallSite adjacentScript = none ∧
      nameByMarkedReturn adjacentScript = none ∧ nameByCatchReturn adjacentScript = none ∧
      nameByGuard adjacentScript = some ⟨"Abc".toList, none⟩ ∧
      ∃ between marker after, adjacentScript = ";Abc=function(a)\x7b".toList ++ (between ++ (marker ++ after)) ∧
        (Attempt.guard.markers adjacentScript).map (·.start) = [";Abc=function(a)\x7b".length + between.length] ∧
          (Attempt.guard.starts adjacentScript).map (·.stop.offset) = [";Abc=function(a)\x7b".length] ∧
            ¬ StandsInside between marker after) := by
  have comma : commaScript = _ := String.toList_ofList
  have adjacent : adjacentScript = _ := String.toList_ofList
  rw [comma, adjacent]
  refine ⟨⟨by decide, by decide, by decide,
    "return a\x7d,Cd=function(b)\x7b".toList, "return\"x_w8_\"+b".toList, "\x7d;".toList, by decide,
    by decide, by decide, ?_⟩, by decide, by decide, by decide,
    by decide, by decide,
    "return a\x7d".toList, ";if(typeof Kx===\"undefined\")return a;".toList, [], by decide,
    by decide, by decide, ?_⟩
  · exact not_standsInside 9 (by decide) (by decide)
  · exact not_standsInside 9 (by decide) (by decide)

end outside

end attempts
end StreamLinks.Script
