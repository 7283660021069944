import StreamLinks.Proofs.Script.Definition
import StreamLinks.Proofs.Search.Apart
import StreamLinks.Script.Dependency
/-!
The names that a body reads.

A name is read where a method of it is called, or where it is indexed at the start of a statement. The
search for calls takes the opening bracket of each, so a call that stands directly behind the bracket of
one that is found is passed over, and one directly behind the bracket of that is found again. Reads by
index never touch each other.
-/
namespace StreamLinks.Script
open Pattern

section scanning
variable {opens : Char → Bool} {body before other head tail after : Text}

-- A character that opens, or the start of the body, stands right before this place.
def Opened (opens : Char → Bool) (before : Text) : Prop := ∀ c ∈ before.getLast?, opens c = true

theorem exists_opening (brace : opens '{' = true) (opened : Opened opens before) :
    ∃ passed c, '{' :: before = passed ++ [c] ∧ opens c = true ∧ passed.length = before.length := by
  rcases List.eq_nil_or_concat before with rfl | ⟨front, c, rfl⟩
  · exact ⟨[], '{', rfl, brace, rfl⟩
  · rw [List.concat_eq_append] at opened ⊢
    exact ⟨'{' :: front, c, rfl, opened c (by simp), by simp⟩

theorem opened_of_opening {passed rest : Text} {c : Char} (opening : opens c = true)
    (split : '{' :: body = passed ++ c :: rest) :
    ∃ before, '{' :: before = passed ++ [c] ∧ body = before ++ rest ∧ Opened opens before := by
  cases passed with
  | nil =>
    obtain ⟨rfl, rfl⟩ := List.cons.inj split
    exact ⟨[], rfl, rfl, by simp [Opened]⟩
  | cons first front =>
    obtain ⟨rfl, rfl⟩ := List.cons.inj split
    refine ⟨front ++ [c], rfl, by simp, ?_⟩
    intro last present
    rw [List.getLast?_concat] at present
    cases present
    exact opening

-- A place within a stretch of the text, behind its start, lies behind a part of it.
theorem exists_overlap (same : before ++ tail = other ++ (head ++ after))
    (later : other.length < before.length) (within : before.length ≤ (other ++ head).length) :
    ∃ part, part ≠ [] ∧ part <+: head ∧ before = other ++ part := by
  have front : before <+: other ++ head := by
    refine List.prefix_of_prefix_length_le (List.prefix_append before tail) ?_ within
    exact ⟨after, by rw [same, List.append_assoc]⟩
  obtain ⟨part, rfl⟩ : other <+: before :=
    List.prefix_of_prefix_length_le (List.prefix_append other head) front (Nat.le_of_lt later)
  refine ⟨part, ?_, (List.prefix_append_right_inj other).mp front, rfl⟩
  rintro rfl
  simp at later

-- What a pattern takes behind a brace, wherever it matches: a character that opens, and a head that begins
-- with the word that is found.
structure Scans (p : Pattern Text) (opens : Char → Bool) (Head : Word → Text → Prop) : Prop where
  brace : opens '{' = true
  ways : ∀ {body read rest : Text} {way : Text × Cursor}, '{' :: body = read ++ rest →
    (way ∈ p (.after read rest) ↔ ∃ c word head tail, rest = c :: (head ++ tail) ∧ opens c = true ∧
      Head word head ∧ way = (word.text, .after (read ++ c :: head) tail))
  unique : ∀ {word known : Word} {head longer tail behind : Text}, Head word head → Head known longer →
    head ++ tail = longer ++ behind → word = known ∧ head = longer

-- The match of a head at a place in the body.
def matchAt (before head after : Text) (word : Word) : Match Text :=
  ⟨before.length, .after ('{' :: (before ++ head)) after, word.text⟩

theorem Scans.mem_everywhere {p : Pattern Text} {Head : Word → Text → Prop} {found : Match Text}
    (scans : Scans p opens Head) : found ∈ everywhere p ('{' :: body) ↔ ∃ before word head after,
      body = before ++ (head ++ after) ∧ Opened opens before ∧ Head word head ∧
        found = matchAt before head after word := by
  constructor
  · intro present
    obtain ⟨passed, rest, split, starts, way⟩ := way_of_mem_everywhere present
    obtain ⟨c, word, head, tail, rfl, opening, here, same⟩ := (scans.ways split).mp way
    obtain ⟨before, whole, rfl, opened⟩ := opened_of_opening opening split
    refine ⟨before, word, head, tail, rfl, opened, here, ?_⟩
    have length : passed.length = before.length := by simpa using (congrArg List.length whole).symm
    have stop : passed ++ c :: head = '{' :: (before ++ head) := by
      rw [← List.cons_append, whole, List.append_assoc]
      rfl
    obtain ⟨start, stop, value⟩ := found
    rw [matchAt]
    simp_all
  · rintro ⟨before, word, head, after, rfl, opened, here, rfl⟩
    obtain ⟨passed, c, whole, opening, length⟩ := exists_opening scans.brace opened
    have split : '{' :: (before ++ (head ++ after)) = passed ++ c :: (head ++ after) := by
      rw [← List.cons_append, whole, List.append_assoc]
      rfl
    have stop : passed ++ c :: head = '{' :: (before ++ head) := by
      rw [← List.cons_append, whole, List.append_assoc]
      rfl
    have present := (scans.ways split).mpr ⟨c, word, head, after, rfl, opening, here, rfl⟩
    rw [matchAt, ← length, ← stop, split]
    refine Pattern.mem_everywhere (List.cons_ne_nil _ _) present ?_
    intro way found
    obtain ⟨d, known, longer, tail, same, -, there, rfl⟩ := (scans.ways split).mp found
    obtain ⟨rfl, behind⟩ := List.cons.inj same
    obtain ⟨rfl, rfl⟩ := scans.unique here there behind
    rw [List.append_cancel_left behind]

-- Where no character of a head opens, no two matches touch, and all of them are found.
theorem Scans.mem_all {p : Pattern Text} {Head : Word → Text → Prop} {found : Match Text}
    (scans : Scans p opens Head) (closed : ∀ word head, Head word head → ∀ c ∈ head, opens c = false) :
    found ∈ all p ('{' :: body) ↔ found ∈ everywhere p ('{' :: body) := by
  rw [mem_all_iff]
  refine and_iff_left_of_imp fun present other kept earlier => ?_
  obtain ⟨before, word, head, after, rfl, opened, -, rfl⟩ := scans.mem_everywhere.mp present
  obtain ⟨front, known, longer, behind, same, -, there, rfl⟩ := scans.mem_everywhere.mp (mem_all_iff.mp kept).1
  refine Nat.le_of_not_lt fun reaches => ?_
  obtain ⟨part, filled, leading, rfl⟩ := exists_overlap same earlier (Nat.le_of_lt_succ reaches)
  have last := List.getLast?_eq_some_getLast filled
  have openedLast := opened _ (by rw [List.getLast?_append, last]; rfl)
  rw [closed known longer there _ (leading.subset (List.getLast_mem filled))] at openedLast
  cases openedLast

end scanning

section calls

-- A word and a member of it, with the opening bracket behind them.
def pathOf (object member : Word) : Text := object.text ++ '.' :: member.text

def callOf (object member : Word) : Text := pathOf object member ++ ['(']

-- A place behind the brackets of so many calls, each directly in the one before it.
inductive Nested : Nat → Text → Prop where
  | outermost (outside : ∀ front object member, Free front → before ≠ front ++ callOf object member) :
      Nested 0 before
  | inside (object member : Word) (free : Free front) (outer : Nested depth front) :
      Nested (depth + 1) (front ++ callOf object member)

variable {before front after : Text} {object member : Word}

theorem callOf_append (object member : Word) (rest : Text) : callOf object member ++ rest =
    object.text ++ (".".toList ++ (member.text ++ ("(".toList ++ rest))) := by
  simp [callOf, pathOf]

theorem isPathChar_of_mem {c : Char} (present : c ∈ pathOf object member) : isPathChar c = true := by
  rcases List.mem_append.mp present with first | behind
  · simp [isPathChar, object.plain c first]
  · rcases List.mem_cons.mp behind with rfl | last
    · rfl
    · simp [isPathChar, member.plain c last]

theorem pathOf_injective {object member known method : Word} {tail rest : Text}
    (same : pathOf object member ++ '(' :: tail = pathOf known method ++ '(' :: rest) :
    object = known ∧ member = method := by
  simp only [pathOf, List.append_assoc, List.cons_append] at same
  obtain ⟨objects, behind⟩ := (Spans.of_stop object.plain rfl _).unique
    (same ▸ Spans.of_stop known.plain rfl _)
  obtain ⟨members, -⟩ := (Spans.of_stop member.plain rfl _).unique
    ((List.cons.inj behind).2 ▸ Spans.of_stop method.plain rfl _)
  exact ⟨Word.eq_of_text objects, Word.eq_of_text members⟩

theorem opened_iff_free : Opened (fun c => !isPathChar c) before ↔ Free before := by
  simp only [Opened, Free, Bool.not_eq_true']

theorem scans_memberCall : Scans memberCall (fun c => !isPathChar c)
    fun object head => ∃ member, head = callOf object member where
  brace := rfl
  ways := by
    intro body read rest way split
    simp only [memberCall, bareStart_then, name_then, literal_then, run_then, mem_pure]
    constructor
    · rintro ⟨opening, _, rfl, opens, object, _, spans, filled, _, rfl, member, _, spansMember, filledMember,
        tail, rfl, rfl⟩
      obtain ⟨object, rfl⟩ := exists_word spans filled
      obtain ⟨member, rfl⟩ := exists_word spansMember filledMember
      rw [spans.split, spansMember.split] at split ⊢
      rcases opens with ⟨rfl, rfl⟩ | ⟨c, rfl, outside⟩
      · -- A brace begins no name.
        obtain ⟨first, word, named⟩ := List.exists_cons_of_ne_nil object.filled
        have plain := object.plain first (by simp [named])
        rw [named] at split
        obtain rfl := (List.cons.inj split).1
        cases plain
      · refine ⟨c, object, callOf object member, tail, ?_, by simp [outside], ⟨member, rfl⟩, ?_⟩
        · rw [callOf_append]
          rfl
        · simp [callOf, pathOf]
    · rintro ⟨c, object, _, tail, rfl, opening, ⟨member, rfl⟩, rfl⟩
      rw [callOf_append]
      exact ⟨[c], _, rfl, .inr ⟨c, rfl, by simpa using opening⟩, object.text, _, .of_mark object.plain rfl _,
        object.length_pos, _, rfl, member.text, _, .of_mark member.plain rfl _, member.length_pos, tail, rfl,
        by simp [callOf, pathOf]⟩
  unique := by
    rintro word known _ _ tail behind ⟨member, rfl⟩ ⟨method, rfl⟩ same
    simp only [callOf, List.append_assoc] at same
    obtain ⟨rfl, rfl⟩ := pathOf_injective same
    exact ⟨rfl, rfl⟩

theorem exists_nested (before : Text) : ∃ depth, Nested depth before := by
  by_cases inside : ∃ front object member, Free front ∧ before = front ++ callOf object member
  · obtain ⟨front, object, member, free, rfl⟩ := inside
    obtain ⟨depth, outer⟩ := exists_nested front
    exact ⟨depth + 1, .inside object member free outer⟩
  · refine ⟨0, .outermost ?_⟩
    intro front object member free split
    exact inside ⟨front, object, member, free, split⟩
termination_by before.length
decreasing_by simp [callOf, *]

-- A call at a place is told by its end alone.
theorem callOf_unique {other : Text} {known method : Word} (free : Free front) (freeOther : Free other)
    (same : front ++ callOf object member = other ++ callOf known method) :
    front = other ∧ object = known ∧ member = method := by
  simp only [callOf, ← List.append_assoc] at same
  obtain ⟨rfl, paths⟩ := Spans.unique_end (List.append_cancel_right same)
    (fun _ => isPathChar_of_mem) free (fun _ => isPathChar_of_mem) freeOther
  exact ⟨rfl, pathOf_injective (congrArg (· ++ "(".toList) paths)⟩

-- A place that no path runs into lies behind a call if it lies behind the start of the call.
theorem eq_of_overlap {other tail behind : Text} (free : Free before)
    (same : before ++ tail = other ++ (callOf object member ++ behind)) (later : other.length < before.length)
    (within : before.length ≤ (other ++ callOf object member).length) :
    before = other ++ callOf object member := by
  obtain ⟨part, filled, leading, rfl⟩ := exists_overlap same later within
  rcases List.prefix_concat_iff.mp leading with rfl | short
  · rfl
  · have last := List.getLast?_eq_some_getLast filled
    have outside := free _ (by rw [List.getLast?_append, last]; rfl)
    rw [isPathChar_of_mem (short.subset (List.getLast_mem filled))] at outside
    cases outside

theorem mem_everywhere_memberCall (free : Free before) (object member : Word) (after : Text) :
    matchAt before (callOf object member) after object ∈
      everywhere memberCall ('{' :: (before ++ (callOf object member ++ after))) :=
  (Scans.mem_everywhere scans_memberCall).mpr
    ⟨before, object, _, after, rfl, opened_iff_free.mpr free, ⟨member, rfl⟩, rfl⟩

-- A call that is reached over stands directly behind the bracket of the other one.
theorem eq_of_reaches {found : Match Text} (present : found ∈ everywhere memberCall
      ('{' :: (before ++ (callOf object member ++ after)))) (free : Free before)
    (earlier : found.start < before.length) (reaches : before.length < found.stop.offset) :
    ∃ front known method behind, Free front ∧ before = front ++ callOf known method ∧
      callOf object member ++ after = behind ∧ found = matchAt front (callOf known method) behind known := by
  obtain ⟨front, known, _, behind, same, opened, ⟨method, rfl⟩, rfl⟩ := (Scans.mem_everywhere scans_memberCall).mp present
  have whole := eq_of_overlap free same earlier (Nat.le_of_lt_succ reaches)
  rw [whole, List.append_assoc] at same
  exact ⟨front, known, method, behind, opened_iff_free.mp opened, whole,
    List.append_cancel_left (List.append_cancel_left same), rfl⟩

-- By induction on the depth: a call is found exactly if the call directly around it is not.
theorem mem_all_memberCall {depth : Nat} (nested : Nested depth before) (free : Free before)
    (object member : Word) (after : Text) : matchAt before (callOf object member) after object ∈
      all memberCall ('{' :: (before ++ (callOf object member ++ after))) ↔ depth % 2 = 0 := by
  induction nested generalizing object member after with
  | @outermost before outside =>
    refine iff_of_true (mem_apart_of_alone (pairwise_everywhere _ _)
      (mem_everywhere_memberCall free object member after) ?_) rfl
    intro other present earlier
    refine Nat.le_of_not_lt fun reaches => ?_
    obtain ⟨front, known, method, _, freeFront, whole, -⟩ := eq_of_reaches present free earlier reaches
    exact outside front known method freeFront whole
  | @inside front depth known method freeOuter outer ih =>
    have around := ih freeOuter known method (callOf object member ++ after)
    rw [← List.append_assoc front] at around
    have step : (depth + 1) % 2 = 0 ↔ ¬ depth % 2 = 0 := by omega
    rw [step, ← around]
    refine mem_apart_behind (pairwise_everywhere _ _) (mem_everywhere_memberCall free object member after)
      (by simp [matchAt, callOf]) (Nat.lt_succ_self _) ?_
    intro other present earlier reaches
    obtain ⟨start, first, second, _, freeStart, whole, rfl, rfl⟩ := eq_of_reaches present free earlier reaches
    obtain ⟨rfl, rfl, rfl⟩ := callOf_unique freeOuter freeStart whole
    rfl

end calls

section indexed

theorem scans_indexedRead : Scans indexedRead (fun c => c == ';' || c == '{')
    fun word head => head = word.text ++ ['['] where
  brace := rfl
  ways := by
    intro body read rest way split
    simp only [indexedRead, one_then, name_then, literal_then, mem_pure]
    constructor
    · rintro ⟨c, _, rfl, opening, word, _, spans, filled, tail, rfl, rfl⟩
      obtain ⟨word, rfl⟩ := exists_word spans filled
      rw [spans.split]
      exact ⟨c, word, _, tail, by simp, opening, rfl, by simp⟩
    · rintro ⟨c, word, _, tail, rfl, opening, rfl, rfl⟩
      rw [List.append_assoc]
      exact ⟨c, _, rfl, opening, word.text, _, .of_mark word.plain rfl _, word.length_pos, tail, rfl, by simp⟩
  unique := by
    rintro word known _ _ tail behind rfl rfl same
    simp only [List.append_assoc] at same
    obtain ⟨words, -⟩ := (Spans.of_stop word.plain rfl tail).unique
      (same ▸ Spans.of_stop known.plain rfl behind)
    obtain rfl := Word.eq_of_text words
    exact ⟨rfl, rfl⟩

theorem mem_all_indexedRead {body : Text} {found : Match Text} :
    found ∈ all indexedRead ('{' :: body) ↔ found ∈ everywhere indexedRead ('{' :: body) := by
  refine Scans.mem_all scans_indexedRead ?_
  rintro word _ rfl c present
  rw [Bool.or_eq_false_iff, beq_eq_false_iff_ne, beq_eq_false_iff_ne]
  rcases List.mem_append.mp present with inside | bracket
  · have plain := word.plain c inside
    constructor <;> rintro rfl <;> cases plain
  · obtain rfl := List.mem_singleton.mp bracket
    decide

end indexed

section references
variable {word : Word} {name body : Text}

-- A member of the word is called behind an even number of calls that are directly around it.
def ReadByCall (word : Word) (body : Text) : Prop := ∃ before member after depth,
  body = before ++ (callOf word member ++ after) ∧ Free before ∧ Nested depth before ∧ depth % 2 = 0

-- The word is indexed at the start of the body or of a statement.
def ReadByIndex (word : Word) (body : Text) : Prop := ∃ before after,
  body = before ++ (word.text ++ '[' :: after) ∧ ∀ c ∈ before.getLast?, c = ';' ∨ c = '{'

-- A member of the name is called there, behind an even number of calls that are directly around it.
def CallFoundAt (name body : Text) (place : Nat) : Prop := ∃ object member before after depth,
  Word.text object = name ∧ body = before ++ (callOf object member ++ after) ∧ Free before ∧ before.length = place ∧
    Nested depth before ∧ depth % 2 = 0

-- The name is indexed there, at the start of the body or of a statement.
def IndexedAt (name body : Text) (place : Nat) : Prop := ∃ word before after,
  Word.text word = name ∧ body = before ++ (word.text ++ '[' :: after) ∧ (∀ c ∈ before.getLast?, c = ';' ∨ c = '{') ∧
    before.length = place

-- The pattern is found there, behind a brace.
def FoundAt (p : Pattern Text) (name body : Text) (place : Nat) : Prop :=
  ∃ found ∈ all p ('{' :: body), found.value = name ∧ found.start = place

theorem exists_foundAt {p : Pattern Text} :
    (∃ place, FoundAt p name body place) ↔ ∃ found ∈ all p ('{' :: body), found.value = name := by
  constructor
  · rintro ⟨_, found, kept, named, -⟩
    exact ⟨found, kept, named⟩
  · rintro ⟨found, kept, named⟩
    exact ⟨found.start, found, kept, named, rfl⟩

theorem callFoundAt_eq (name body : Text) : CallFoundAt name body = FoundAt memberCall name body := by
  ext place
  constructor
  · rintro ⟨object, member, before, after, depth, rfl, rfl, free, rfl, nested, even⟩
    exact ⟨_, (mem_all_memberCall nested free object member after).mpr even, rfl, rfl⟩
  · rintro ⟨found, kept, rfl, rfl⟩
    obtain ⟨before, object, _, after, rfl, opened, ⟨member, rfl⟩, rfl⟩ :=
      (Scans.mem_everywhere scans_memberCall).mp (mem_all_iff.mp kept).1
    obtain ⟨depth, nested⟩ := exists_nested before
    have free := opened_iff_free.mp opened
    exact ⟨object, member, before, after, depth, rfl, rfl, free, rfl, nested,
      (mem_all_memberCall nested free _ _ _).mp kept⟩

theorem indexedAt_eq (name body : Text) : IndexedAt name body = FoundAt indexedRead name body := by
  ext place
  simp only [FoundAt, mem_all_indexedRead]
  constructor
  · rintro ⟨word, before, after, rfl, rfl, opened, rfl⟩
    refine ⟨matchAt before (word.text ++ ['[']) after word, (Scans.mem_everywhere scans_indexedRead).mpr
      ⟨before, word, _, after, by simp, ?_, rfl, rfl⟩, rfl, rfl⟩
    intro c present
    simpa using opened c present
  · rintro ⟨found, present, rfl, rfl⟩
    obtain ⟨before, word, _, after, rfl, opened, rfl, rfl⟩ := (Scans.mem_everywhere scans_indexedRead).mp present
    refine ⟨word, before, after, rfl, by simp, ?_, rfl⟩
    intro c present
    simpa using opened c present

theorem readByCall_iff : ReadByCall word body ↔
    ∃ found ∈ all memberCall ('{' :: body), found.value = word.text := by
  rw [← exists_foundAt, ← callFoundAt_eq]
  constructor
  · rintro ⟨before, member, after, depth, split, free, nested, even⟩
    exact ⟨before.length, word, member, before, after, depth, rfl, split, free, rfl, nested, even⟩
  · rintro ⟨_, known, member, before, after, depth, named, split, free, -, nested, even⟩
    obtain rfl := Word.eq_of_text named
    exact ⟨before, member, after, depth, split, free, nested, even⟩

theorem readByIndex_iff : ReadByIndex word body ↔
    ∃ found ∈ all indexedRead ('{' :: body), found.value = word.text := by
  rw [← exists_foundAt, ← indexedAt_eq]
  constructor
  · rintro ⟨before, after, split, opened⟩
    exact ⟨before.length, word, before, after, rfl, split, opened, rfl⟩
  · rintro ⟨_, known, before, after, named, split, opened, -⟩
    obtain rfl := Word.eq_of_text named
    exact ⟨before, after, split, opened⟩

theorem exists_word_of_scanned {p : Pattern Text} {opens : Char → Bool} {Head : Word → Text → Prop}
    {found : Match Text} (scans : Scans p opens Head) (kept : found ∈ all p ('{' :: body)) :
    ∃ word : Word, found.value = word.text := by
  obtain ⟨before, word, _, after, rfl, -, -, rfl⟩ := scans.mem_everywhere.mp (mem_all_iff.mp kept).1
  exact ⟨word, rfl⟩

theorem mem_referencedNames : name ∈ referencedNames body ↔
    ∃ word : Word, name = word.text ∧ (ReadByCall word body ∨ ReadByIndex word body) := by
  simp only [referencedNames, List.mem_map, List.mem_append, readByCall_iff, readByIndex_iff]
  constructor
  · rintro ⟨found, kept | kept, rfl⟩
    · obtain ⟨word, named⟩ := exists_word_of_scanned scans_memberCall kept
      exact ⟨word, named, .inl ⟨found, kept, named⟩⟩
    · obtain ⟨word, named⟩ := exists_word_of_scanned scans_indexedRead kept
      exact ⟨word, named, .inr ⟨found, kept, named⟩⟩
  · rintro ⟨word, rfl, ⟨found, kept, named⟩ | ⟨found, kept, named⟩⟩
    · exact ⟨found, .inl kept, named⟩
    · exact ⟨found, .inr kept, named⟩

end references
end StreamLinks.Script
