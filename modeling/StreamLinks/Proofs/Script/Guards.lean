import StreamLinks.Proofs.Script.Word
import StreamLinks.Proofs.Search.Apart
import StreamLinks.Proofs.Text.Splitting
import StreamLinks.Script.Transform
/-!
Guards in source that is to be run.

A guard stands between two semicolons, and its own text holds none. So a text is taken as its pieces
between semicolons, and the guards are some of them. When guards are dropped, the piece behind a dropped
one is not looked at again: its semicolon is already taken. So no guard is left exactly if no two of them
stand side by side.
-/
namespace StreamLinks.Script
open Pattern

section characters
variable {c : Char}

set_option maxRecDepth 4000 in
theorem disjoint_ranges : ∀ blank ∈ Text.blankRanges, ∀ wide ∈ Text.wordCharRanges,
    blank.2 < wide.1 ∨ wide.2 < blank.1 := by
  have apart : Text.blankRanges.all (fun blank => Text.wordCharRanges.all fun wide =>
      Nat.blt blank.2 wide.1 || Nat.blt wide.2 blank.1) = true := by decide
  simpa only [List.all_eq_true, Bool.or_eq_true, Nat.blt_eq] using apart

theorem isWideNameChar_of_isBlank (blank : Text.isBlank c = true) : isWideNameChar c = false := by
  refine Bool.or_eq_false_iff.mpr ⟨?_, beq_eq_false_iff_ne.mpr ?_⟩
  · obtain ⟨plain, -⟩ := Bool.or_eq_false_iff.mp (isNameChar_of_isBlank blank)
    unfold Text.isWordChar
    split
    · exact plain
    · rw [Bool.eq_false_iff]
      intro inside
      obtain ⟨range, known, within⟩ := List.any_eq_true.mp blank
      obtain ⟨other, knownOther, withinOther⟩ := List.any_eq_true.mp inside
      simp only [Bool.and_eq_true, decide_eq_true_eq] at within withinOther
      have apart := disjoint_ranges range known other knownOther
      omega
  · rintro rfl
    cases blank

theorem isBlank_of_isWideNameChar (wide : isWideNameChar c = true) : Text.isBlank c = false := by
  rw [Bool.eq_false_iff]
  intro blank
  rw [isWideNameChar_of_isBlank blank] at wide
  cases wide

end characters

section grammar

-- The text "undefined", or an element of a table that holds it.
inductive Missing : Text → Prop where
  | double : Missing "\"undefined\"".toList
  | single : Missing "'undefined'".toList
  | element {table index : Text} (named : table ≠ []) (wide : ∀ c ∈ table, isWideNameChar c = true)
      (filled : index ≠ []) (decimal : ∀ c ∈ index, Text.isDecimalDigit c = true) :
      Missing (table ++ ("[".toList ++ (index ++ "]".toList)))

-- The condition of a guard: a global is missing.
inductive Lacks : Text → Prop where
  | lacks (word : Word) {gap gapBefore strict gapBehind missing : Text} (apart : Gap gap) (filled : gap ≠ [])
      (apartBefore : Gap gapBefore) (equals : strict = [] ∨ strict = "=".toList) (apartBehind : Gap gapBehind)
      (compared : Missing missing) :
      Lacks ("typeof".toList ++ (gap ++ (word.text ++ (gapBefore ++ ("==".toList ++ (strict ++
        (gapBehind ++ missing)))))))

-- The text of a guard between its semicolons.
inductive Guard : Text → Prop where
  | guard {start gap opening condition closing gapBehind space result : Text} (apartStart : Gap start)
      (apart : Gap gap) (apartOpening : Gap opening) (lacks : Lacks condition) (apartClosing : Gap closing)
      (apartBehind : Gap gapBehind) (apartResult : Gap space) (filled : space ≠ []) (named : result ≠ [])
      (wide : ∀ c ∈ result, isWideNameChar c = true) :
      Guard (start ++ ("if".toList ++ (gap ++ ("(".toList ++ (opening ++ (condition ++ (closing ++
        (")".toList ++ (gapBehind ++ ("return".toList ++ (space ++ result)))))))))))

-- Two guards side by side, with one semicolon between them.
def SuccessiveGuards (text : Text) : Prop := ∃ before guard next after,
  text = before ++ ';' :: (guard ++ ';' :: (next ++ ';' :: after)) ∧ Guard guard ∧ Guard next

def guardMarks : List Text :=
  ["typeof", "==", "=", "if", "(", ")", "return", "[", "]", "\"undefined\"", "'undefined'"].map String.toList

-- A character that stands in no part of a guard.
structure Outside (c : Char) : Prop where
  blank : Text.isBlank c = false
  plain : isNameChar c = false
  wide : isWideNameChar c = false
  decimal : Text.isDecimalDigit c = false
  mark : ∀ mark ∈ guardMarks, c ∉ mark

variable {c : Char} {text : Text}

theorem Outside.of_decide
    (classes : (Text.isBlank c || isNameChar c || isWideNameChar c || Text.isDecimalDigit c) = false)
    (mark : ∀ mark ∈ guardMarks, c ∉ mark) : Outside c := by
  simp only [Bool.or_eq_false_iff] at classes
  obtain ⟨⟨⟨blank, plain⟩, wide⟩, decimal⟩ := classes
  exact ⟨blank, plain, wide, decimal, mark⟩

theorem Missing.not_mem (outside : Outside c) (missing : Missing text) : c ∉ text := by
  cases missing with
  | double | single => exact outside.mark _ (by decide)
  | element named wide filled decimal =>
    have opening := outside.mark "[".toList (by decide)
    have closing := outside.mark "]".toList (by decide)
    simp only [List.mem_append, not_or]
    exact ⟨not_mem_of_all wide outside.wide, opening, not_mem_of_all decimal outside.decimal, closing⟩

theorem Lacks.not_mem (outside : Outside c) (lacks : Lacks text) : c ∉ text := by
  have gap {gap : Text} (apart : Gap gap) : c ∉ gap := not_mem_of_all apart outside.blank
  cases lacks with
  | @lacks word _ _ strict _ _ apart filled apartBefore equals apartBehind compared =>
    have sign : c ∉ strict := by
      rcases equals with rfl | rfl
      · exact List.not_mem_nil
      · exact outside.mark _ (by decide)
    simp only [List.mem_append, not_or]
    exact ⟨outside.mark _ (by decide), gap apart, not_mem_of_all word.plain outside.plain, gap apartBefore,
      outside.mark _ (by decide), sign, gap apartBehind, compared.not_mem outside⟩

theorem Guard.not_mem (outside : Outside c) (guard : Guard text) : c ∉ text := by
  have gap {gap : Text} (apart : Gap gap) : c ∉ gap := not_mem_of_all apart outside.blank
  cases guard with
  | guard apartStart apart apartOpening lacks apartClosing apartBehind apartResult filled named wide =>
    simp only [List.mem_append, not_or]
    exact ⟨gap apartStart, outside.mark _ (by decide), gap apart, outside.mark _ (by decide), gap apartOpening,
      lacks.not_mem outside, gap apartClosing, outside.mark _ (by decide), gap apartBehind,
      outside.mark _ (by decide), gap apartResult, not_mem_of_all wide outside.wide⟩

theorem Guard.no_semicolon (guard : Guard text) : ';' ∉ text := guard.not_mem (.of_decide rfl (by decide))

end grammar

section pattern
variable {β : Type} {read rest : Text} {way : β × Cursor} {next : Pattern β}

theorem strict_then : way ∈ (optional (literal "=") >>= fun _ => next) (.after read rest) ↔
    ∃ strict tail, rest = strict ++ tail ∧ (strict = [] ∨ strict = "=".toList) ∧
      way ∈ next (.after (read ++ strict) tail) := by
  simp only [optional_then, literal_then]
  constructor
  · rintro (⟨tail, rfl, found⟩ | found)
    · exact ⟨_, tail, rfl, .inr rfl, found⟩
    · exact ⟨[], rest, rfl, .inl rfl, by simpa using found⟩
  · rintro ⟨_, tail, rfl, rfl | rfl, found⟩
    · exact .inr (by simpa using found)
    · exact .inl ⟨tail, rfl, found⟩

theorem missing_then : way ∈ (either (literal "\"undefined\"") (either (literal "'undefined'")
    (do run isWideNameChar; let _ ← subscript)) >>= fun _ => next) (.after read rest) ↔
      ∃ missing tail, rest = missing ++ tail ∧ Missing missing ∧
        way ∈ next (.after (read ++ missing) tail) := by
  simp only [either_then, literal_then, bind_then, run_then, subscript, digits_then, pure_then]
  constructor
  · rintro (⟨tail, rfl, found⟩ | ⟨tail, rfl, found⟩ |
      ⟨table, _, spans, named, _, rfl, index, _, spansIndex, filled, tail, rfl, found⟩)
    · exact ⟨_, tail, rfl, .double, found⟩
    · exact ⟨_, tail, rfl, .single, found⟩
    · refine ⟨_, tail, ?_, .element (List.length_pos_iff.mp named) spans.inside
        (List.length_pos_iff.mp filled) spansIndex.inside, by simpa using found⟩
      rw [spans.split, spansIndex.split]
      simp only [List.append_assoc]
  · rintro ⟨_, tail, rfl, missing, found⟩
    cases missing with
    | double => exact .inl ⟨tail, rfl, found⟩
    | single => exact .inr (.inl ⟨tail, rfl, found⟩)
    | @element table index named wide filled decimal =>
      simp only [List.append_assoc] at found ⊢
      exact .inr (.inr ⟨table, _, .of_mark wide rfl _, List.length_pos_iff.mpr named, _, rfl, index, _,
        .of_mark decimal rfl _, List.length_pos_iff.mpr filled, tail, rfl, by simpa using found⟩)

theorem Missing.outside {missing : Text} (compared : Missing missing) (back : Text) :
    ∀ c ∈ (missing ++ back).head?, Text.isBlank c = false := by
  cases compared with
  | double | single =>
    intro c present
    cases present
    rfl
  | element named wide filled decimal =>
    rw [List.append_assoc]
    exact outside_of_head named (fun c present => isBlank_of_isWideNameChar (wide c present)) _

theorem guard_of_mem {way : Unit × Cursor} (found : way ∈ guardPattern (.after read rest)) :
    ∃ guard tail, rest = ';' :: (guard ++ ';' :: tail) ∧ Guard guard ∧
      way = ((), .after (read ++ ';' :: (guard ++ [';'])) tail) := by
  simp only [guardPattern, literal_then, blanks_then, someBlanks_then, run_then, strict_then, missing_then,
    mem_literal] at found
  obtain ⟨_, rfl, start, _, spansStart, _, rfl, gap, _, spans, _, rfl, opening, _, spansOpening, _, rfl,
    space, _, spansSpace, filledSpace, global, _, spansGlobal, filledGlobal, before, _, spansBefore, _, rfl,
    strict, _, rfl, equals, behind, _, spansBehind, missing, _, rfl, compared, closing, _, spansClosing, _,
    rfl, last, _, spansLast, _, rfl, spaceResult, _, spansSpaceResult, filledSpaceResult, result, _,
    spansResult, named, tail, rfl, rfl⟩ := found
  obtain ⟨word, rfl⟩ := exists_word spansGlobal filledGlobal
  have lacks : Lacks _ := .lacks word spansSpace.inside (List.length_pos_iff.mp filledSpace)
    spansBefore.inside equals spansBehind.inside compared
  refine ⟨_, tail, ?_, .guard spansStart.inside spans.inside spansOpening.inside lacks
    spansClosing.inside spansLast.inside spansSpaceResult.inside (List.length_pos_iff.mp filledSpaceResult)
    (List.length_pos_iff.mp named) spansResult.inside, by simp⟩
  rw [spansStart.split, spans.split, spansOpening.split, spansSpace.split, spansGlobal.split,
    spansBefore.split, spansBehind.split, spansClosing.split, spansLast.split, spansSpaceResult.split,
    spansResult.split]
  simp

theorem mem_of_guard {guard : Text} (here : Guard guard) (read tail : Text) :
    ((), .after (read ++ ';' :: (guard ++ [';'])) tail) ∈
      guardPattern (.after read (';' :: (guard ++ ';' :: tail))) := by
  simp only [guardPattern, literal_then, blanks_then, someBlanks_then, run_then, strict_then, missing_then,
    mem_literal]
  cases here with
  | @guard start gap opening condition closing gapBehind space result apartStart apart apartOpening lacks
      apartClosing apartBehind apartResult filled named wide =>
    cases lacks with
    | @lacks word gapSpace gapBefore strict gapMissing missing apartSpace filledSpace apartBefore equals
        apartMissing compared =>
      have blankResult := outside_of_head named fun c present => isBlank_of_isWideNameChar (wide c present)
      simp only [List.append_assoc]
      exact ⟨_, rfl, start, _, .of_mark apartStart rfl _, _, rfl, gap, _, .of_mark apart rfl _, _, rfl,
        opening, _, .of_mark apartOpening rfl _, _, rfl, gapSpace, _, ⟨rfl, apartSpace, word.blank_outside _⟩,
        List.length_pos_iff.mpr filledSpace, word.text, _, ⟨rfl, word.plain, outside_of_gap apartBefore rfl _⟩,
        word.length_pos, gapBefore, _, .of_mark apartBefore rfl _, _, rfl, strict, _, rfl, equals,
        gapMissing, _, ⟨rfl, apartMissing, compared.outside _⟩, missing, _, rfl, compared,
        closing, _, .of_mark apartClosing rfl _, _, rfl, gapBehind, _, .of_mark apartBehind rfl _, _, rfl,
        space, _, ⟨rfl, apartResult, blankResult _⟩, List.length_pos_iff.mpr filled, result, _,
        .of_stop wide rfl _, List.length_pos_iff.mpr named, tail, rfl, by simp⟩

theorem mem_guardPattern {way : Unit × Cursor} : way ∈ guardPattern (.after read rest) ↔
    ∃ guard tail, rest = ';' :: (guard ++ ';' :: tail) ∧ Guard guard ∧
      way = ((), .after (read ++ ';' :: (guard ++ [';'])) tail) := by
  refine ⟨guard_of_mem, ?_⟩
  rintro ⟨guard, tail, rfl, here, rfl⟩
  exact mem_of_guard here read tail

end pattern

section pieces
variable {read rest piece tail new : Text}

theorem guardPattern_of_ne {c : Char} (other : c ≠ ';') : guardPattern (.after read (c :: rest)) = [] := by
  rw [List.eq_nil_iff_forall_not_mem]
  intro way present
  obtain ⟨guard, tail, split, -, -⟩ := mem_guardPattern.mp present
  exact other (List.cons.inj split).1

theorem mem_guardPattern_piece {way : Unit × Cursor} (clean : ';' ∉ piece) :
    way ∈ guardPattern (.after read (';' :: (piece ++ ';' :: tail))) ↔
      Guard piece ∧ way = ((), .after (read ++ ';' :: (piece ++ [';'])) tail) := by
  rw [mem_guardPattern]
  constructor
  · rintro ⟨guard, tail, split, here, rfl⟩
    have cut := congrArg (Text.cut [';']) (List.cons.inj split).2
    rw [Text.cut_piece clean, Text.cut_piece here.no_semicolon] at cut
    cases cut
    exact ⟨here, rfl⟩
  · rintro ⟨here, rfl⟩
    exact ⟨piece, tail, rfl, here, rfl⟩

theorem guardPattern_last (clean : ';' ∉ piece) : guardPattern (.after read (';' :: piece)) = [] := by
  rw [List.eq_nil_iff_forall_not_mem]
  intro way present
  obtain ⟨guard, tail, split, -, -⟩ := mem_guardPattern.mp present
  obtain rfl := (List.cons.inj split).2
  exact clean (by simp)

theorem replaceFrom_piece (clean : ';' ∉ piece) : replaceFrom guardPattern new read (piece ++ rest) =
    piece ++ replaceFrom guardPattern new (read ++ piece) rest := by
  induction piece generalizing read with
  | nil => simp
  | cons c piece ih =>
    rw [List.mem_cons, not_or] at clean
    rw [List.cons_append, replaceFrom_next (guardPattern_of_ne (Ne.symm clean.1)), ih clean.2,
      List.append_assoc]
    rfl

theorem replaceFrom_guard (guard : Guard piece) (read tail : Text) :
    replaceFrom guardPattern [';'] read (';' :: (piece ++ ';' :: tail)) =
      ';' :: replaceFrom guardPattern [';'] (read ++ ';' :: (piece ++ [';'])) tail := by
  have mark : ';' :: (piece ++ ';' :: tail) = ';' :: (piece ++ [';']) ++ tail := by simp
  have ways (way : Unit × Cursor) := @mem_guardPattern_piece read piece tail way guard.no_semicolon
  obtain ⟨first, others, found⟩ := List.exists_cons_of_ne_nil
    (List.ne_nil_of_mem ((ways _).mpr ⟨guard, rfl⟩))
  obtain ⟨-, rfl⟩ := (ways first).mp (found ▸ List.mem_cons_self)
  rw [mark] at found ⊢
  exact replaceFrom_match (List.cons_ne_nil _ _) (by rw [found, List.head?_cons])

end pieces

section thinning

-- What is left of the pieces behind the first one: the piece behind a dropped guard stays, whatever it is.
inductive Thinned : (pieces thin : List Text) → Prop where
  | nil : Thinned [] []
  | last : Thinned [piece] [piece]
  | keep (other : ¬ Guard piece) (behind : Thinned (next :: rest) thin) :
      Thinned (piece :: next :: rest) (piece :: thin)
  | drop (guard : Guard piece) (behind : Thinned rest thin) : Thinned (piece :: next :: rest) (next :: thin)

-- So many guards in a row with one more piece behind them, at the front or somewhere among the pieces.
def Row : Nat → List Text → Prop
  | 0, pieces => pieces ≠ []
  | _ + 1, [] => False
  | count + 1, piece :: rest => Guard piece ∧ Row count rest

def HoldsRow (count : Nat) : List Text → Prop
  | [] => False
  | piece :: rest => Row count (piece :: rest) ∨ HoldsRow count rest

variable {piece : Text} {pieces rest thin : List Text} {count : Nat}

theorem Row.ne_nil (row : Row count pieces) : pieces ≠ [] := by
  rintro rfl
  cases count with
  | zero => exact row rfl
  | succ count => exact row

theorem row_iff : Row count pieces ↔ ∃ guards last back,
    pieces = guards ++ last :: back ∧ guards.length = count ∧ ∀ guard ∈ guards, Guard guard := by
  induction count generalizing pieces with
  | zero =>
    constructor
    · intro more
      obtain ⟨last, back, rfl⟩ := List.exists_cons_of_ne_nil more
      exact ⟨[], last, back, rfl, rfl, by simp⟩
    · rintro ⟨guards, last, back, rfl, -, -⟩
      simp [Row]
  | succ count ih =>
    cases pieces with
    | nil => simp [Row]
    | cons piece rest =>
      constructor
      · rintro ⟨here, behind⟩
        obtain ⟨guards, last, back, rfl, length, all⟩ := ih.mp behind
        exact ⟨piece :: guards, last, back, rfl, by simp [length], List.forall_mem_cons.mpr ⟨here, all⟩⟩
      · rintro ⟨_ | ⟨guard, guards⟩, last, back, split, length, all⟩
        · cases length
        · obtain ⟨rfl, rfl⟩ := List.cons.inj split
          obtain ⟨here, others⟩ := List.forall_mem_cons.mp all
          exact ⟨here, ih.mpr ⟨guards, last, back, rfl, Nat.succ.inj length, others⟩⟩

theorem holdsRow_iff : HoldsRow count pieces ↔ 
    ∃ front rest, pieces = front ++ rest ∧ Row count rest := by
  induction pieces with
  | nil =>
    refine iff_of_false id ?_
    rintro ⟨front, rest, split, row⟩
    exact row.ne_nil (List.append_eq_nil_iff.mp split.symm).2
  | cons piece pieces ih =>
    constructor
    · intro holds
      rcases holds with here | later
      · exact ⟨[], piece :: pieces, rfl, here⟩
      · obtain ⟨front, rest, rfl, row⟩ := ih.mp later
        exact ⟨piece :: front, rest, rfl, row⟩
    · intro split
      obtain ⟨front, rest, split, row⟩ := split
      cases front with
      | nil => exact .inl (split ▸ row)
      | cons first front => exact .inr (ih.mpr ⟨front, rest, (List.cons.inj split).2, row⟩)

theorem exists_thinned (read : Text) : (pieces : List Text) → (∀ piece ∈ pieces, ';' ∉ piece) →
    ∃ thin, Thinned pieces thin ∧ replaceFrom guardPattern [';'] read (pieces.flatMap (';' :: ·)) =
      thin.flatMap (';' :: ·)
  | [], _ => ⟨[], .nil, replaceFrom_nil⟩
  | [piece], clean => by
    have cleanPiece := clean piece List.mem_cons_self
    have kept := @replaceFrom_piece (read ++ [';']) [] piece [';'] cleanPiece
    rw [replaceFrom_nil, List.append_nil] at kept
    refine ⟨[piece], .last, ?_⟩
    rw [List.flatMap_singleton, replaceFrom_next (guardPattern_last cleanPiece), kept]
  | piece :: next :: rest, clean => by
    obtain ⟨cleanPiece, cleanOthers⟩ := List.forall_mem_cons.mp clean
    obtain ⟨cleanNext, cleanRest⟩ := List.forall_mem_cons.mp cleanOthers
    have whole : (piece :: next :: rest).flatMap (';' :: ·) =
      ';' :: (piece ++ ';' :: (next ++ rest.flatMap (';' :: ·))) := by simp
    by_cases guard : Guard piece
    · -- The match takes the semicolon behind the guard too, so what follows it begins with no semicolon.
      have here := replaceFrom_guard guard read (next ++ rest.flatMap (';' :: ·))
      obtain ⟨thin, thinned, replaced⟩ := exists_thinned (read ++ ';' :: (piece ++ [';']) ++ next) rest cleanRest
      refine ⟨next :: thin, .drop guard thinned, ?_⟩
      rw [whole, here, replaceFrom_piece cleanNext, replaced]
      rfl
    · have none : guardPattern (.after read (';' :: (piece ++ ';' :: (next ++ rest.flatMap (';' :: ·))))) = [] := by
        rw [List.eq_nil_iff_forall_not_mem]
        intro way present
        exact guard ((mem_guardPattern_piece cleanPiece).mp present).1
      obtain ⟨thin, thinned, replaced⟩ := exists_thinned (read ++ [';'] ++ piece) (next :: rest) cleanOthers
      refine ⟨piece :: thin, .keep guard thinned, ?_⟩
      rw [whole, replaceFrom_next none, replaceFrom_piece cleanPiece, List.flatMap_cons, ← replaced]
      rfl

theorem Thinned.subset (thinned : Thinned pieces thin) : thin ⊆ pieces := by
  induction thinned with
  | nil | last => exact List.Subset.refl _
  | keep _ _ ih => exact List.cons_subset_cons _ ih
  | drop _ _ ih => exact List.subset_cons_of_subset _ (List.cons_subset_cons _ ih)

theorem Thinned.eq_nil_iff (thinned : Thinned pieces thin) : thin = [] ↔ pieces = [] := by
  cases thinned <;> simp

-- Two guards in a row are the only way for a guard to stay, and the second of them does.
theorem Thinned.holdsRow_iff (thinned : Thinned pieces thin) : HoldsRow 1 thin ↔ HoldsRow 2 pieces := by
  induction thinned with
  | nil => exact Iff.rfl
  | last => simp [HoldsRow, Row]
  | keep other behind ih => simp [HoldsRow, Row, ih, other]
  | @drop piece rest thin next guard behind ih =>
    have more : Row 0 thin ↔ Row 0 rest := not_congr behind.eq_nil_iff
    show (Guard next ∧ Row 0 thin) ∨ HoldsRow 1 thin ↔
      (Guard piece ∧ Guard next ∧ Row 0 rest) ∨ (Guard next ∧ Row 1 rest) ∨ HoldsRow 2 rest
    rw [ih, more]
    constructor
    · intro holds
      rcases holds with here | later
      · exact .inl ⟨guard, here⟩
      · exact .inr (.inr later)
    · intro holds
      rcases holds with ⟨-, here⟩ | ⟨here, longer⟩ | later
      · exact .inl here
      · exact .inl ⟨here, longer.ne_nil⟩
      · exact .inr later

end thinning

section source
variable {first text : Text} {pieces : List Text}

theorem hasGuard_iff : hasGuard text = true ↔
    ∃ before guard after, text = before ++ ';' :: (guard ++ ';' :: after) ∧ Guard guard := by
  rw [hasGuard, Option.isSome_iff_exists, first?_eq_head?]
  constructor
  · rintro ⟨found, head⟩
    obtain ⟨before, rest, rfl, -, way⟩ := way_of_mem_everywhere (List.mem_of_mem_head? head)
    obtain ⟨guard, after, rfl, here, -⟩ := mem_guardPattern.mp way
    exact ⟨before, guard, after, rfl, here⟩
  · rintro ⟨before, guard, after, rfl, here⟩
    have found := everywhere_ne_nil (List.cons_ne_nil _ _)
      (mem_guardPattern.mpr ⟨guard, after, rfl, here, rfl⟩ : _ ∈ guardPattern (.after before _))
    exact ⟨_, List.head?_eq_some_head found⟩

-- So many guards in a row somewhere in the text, each with the semicolon before and behind it.
def GuardsInRow (count : Nat) (text : Text) : Prop := ∃ (before : Text) (guards : List Text) (after : Text),
  text = before ++ (guards.flatMap (';' :: ·) ++ ';' :: after) ∧ guards.length = count ∧
    ∀ guard ∈ guards, Guard guard

theorem guardsInRow_iff {count : Nat} (clean : ∀ piece ∈ first :: pieces, ';' ∉ piece) :
    GuardsInRow count (first ++ pieces.flatMap (';' :: ·)) ↔ HoldsRow count pieces := by
  rw [holdsRow_iff]
  constructor
  · rintro ⟨before, guards, after, split, length, all⟩
    obtain ⟨front, last, back, rfl⟩ := (Text.between_iff clean fun guard present =>
      (all guard present).no_semicolon).mp ⟨before, after, split⟩
    exact ⟨front, _, rfl, row_iff.mpr ⟨guards, last, back, rfl, length, all⟩⟩
  · rintro ⟨front, rest, rfl, row⟩
    obtain ⟨guards, last, back, rfl, length, all⟩ := row_iff.mp row
    obtain ⟨before, after, split⟩ := (Text.between_iff clean fun guard present =>
      (all guard present).no_semicolon).mpr ⟨front, last, back, rfl⟩
    exact ⟨before, guards, after, split, length, all⟩

theorem hasGuard_iff_row : hasGuard text = true ↔ GuardsInRow 1 text := by
  rw [hasGuard_iff]
  constructor
  · rintro ⟨before, guard, after, rfl, here⟩
    exact ⟨before, [guard], after, by simp, rfl, by simpa using here⟩
  · rintro ⟨before, guards, after, rfl, length, all⟩
    obtain ⟨guard, rfl⟩ := List.length_eq_one_iff.mp length
    exact ⟨before, guard, after, by simp, all guard List.mem_cons_self⟩

theorem successiveGuards_iff_row : SuccessiveGuards text ↔ GuardsInRow 2 text := by
  constructor
  · rintro ⟨before, guard, next, after, rfl, here, there⟩
    exact ⟨before, [guard, next], after, by simp, rfl, by simpa using ⟨here, there⟩⟩
  · rintro ⟨before, guards, after, rfl, length, all⟩
    obtain ⟨guard, others, rfl⟩ := List.exists_cons_of_length_eq_add_one length
    obtain ⟨next, rfl⟩ := List.length_eq_one_iff.mp (Nat.succ.inj length)
    obtain ⟨here, others⟩ := List.forall_mem_cons.mp all
    exact ⟨before, guard, next, after, by simp, here, others next List.mem_cons_self⟩

theorem hasGuard_dropGuards (text : Text) :
    hasGuard (dropGuards text) = true ↔ SuccessiveGuards text := by
  obtain ⟨first, pieces, clean, rfl⟩ := Text.exists_pieces ';' text
  obtain ⟨cleanFirst, cleanOthers⟩ := List.forall_mem_cons.mp clean
  obtain ⟨thin, thinned, replaced⟩ := exists_thinned ([] ++ first) pieces cleanOthers
  have dropped : dropGuards (first ++ pieces.flatMap (';' :: ·)) = first ++ thin.flatMap (';' :: ·) := by
    rw [dropGuards, replace_eq, replaceFrom_piece cleanFirst, replaced]
  have cleanThin : ∀ piece ∈ first :: thin, ';' ∉ piece :=
    List.forall_mem_cons.mpr ⟨cleanFirst, fun piece present => cleanOthers piece (thinned.subset present)⟩
  rw [dropped, hasGuard_iff_row, successiveGuards_iff_row, guardsInRow_iff cleanThin, guardsInRow_iff clean,
    thinned.holdsRow_iff]

theorem runnableCode_eq (function : Function) (script : Text) :
    ∃ front, runnableCode function script = front ++ dropGuards function.declaration := by
  unfold runnableCode
  cases lookup? script with
  | none => exact ⟨[], rfl⟩
  | some lookup => exact ⟨lookup.code ++ [';'] ++ ['\n'], rfl⟩

theorem functionCode?_hasGuard_iff {word script code : Text} (found : functionCode? word script = some code) :
    ∃ function front, function? word script = some function ∧
      code = front ++ dropGuards function.declaration ∧
        (hasGuard (dropGuards function.declaration) = true ↔ SuccessiveGuards function.declaration) := by
  obtain ⟨function, located, rfl⟩ := Option.map_eq_some_iff.mp found
  obtain ⟨front, split⟩ := runnableCode_eq function script
  exact ⟨function, front, located, split, hasGuard_dropGuards function.declaration⟩

section twoGuards

-- A guard, and with the same semicolon another one.
def twiceGuarded : Text :=
  ("Ab=function(a)\x7bvar b=a;if(typeof K===\"undefined\")return b;" ++
    "if(typeof L===\"undefined\")return b;return a\x7d;").toList

def onceGuarded : Text :=
  "var Ab=function(a)\x7bvar b=a;if(typeof L===\"undefined\")return b;return a\x7d;".toList

theorem functionCode?_hasGuard_iff_twice :
    functionCode? "Ab".toList twiceGuarded = some onceGuarded ∧
      ∃ function front, function? "Ab".toList twiceGuarded = some function ∧
        onceGuarded = front ++ dropGuards function.declaration ∧
          (hasGuard (dropGuards function.declaration) = true ↔ SuccessiveGuards function.declaration) := by
  have characters : twiceGuarded = _ := Text.toList_append rfl rfl
  have found : functionCode? "Ab".toList twiceGuarded = some onceGuarded := by
    rw [characters]
    decide
  exact ⟨found, functionCode?_hasGuard_iff found⟩

theorem hasGuard_onceGuarded : functionCode? "Ab".toList twiceGuarded = some onceGuarded ∧
    (function? "Ab".toList twiceGuarded).map (dropGuards ·.declaration) = some onceGuarded ∧
      hasGuard onceGuarded = true := by
  have characters : twiceGuarded = _ := Text.toList_append rfl rfl
  rw [characters]
  decide

end twoGuards

end source
end StreamLinks.Script
