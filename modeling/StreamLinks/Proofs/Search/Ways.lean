import StreamLinks.Search.Pattern
/-!
Patterns inside one text.

A place in a text splits it into what has been read and the rest. The ways of a pattern from a place
are told as splits of that rest, one lemma for each way of building patterns.
-/
namespace StreamLinks

-- The place between what has been read and the rest.
def Cursor.after (read rest : Text) : Cursor := ⟨read.length, read.getLast?, rest⟩

@[simp] theorem Cursor.after_rest (read rest : Text) : (after read rest).rest = rest := rfl

theorem Cursor.start_eq (text : Text) : (⟨0, none, text⟩ : Cursor) = after [] text := rfl

theorem Cursor.behind_after (read : Text) (c : Char) (rest : Text) (place : Text) :
    (after read place).behind c rest = after (read ++ [c]) rest := by
  simp [behind, after]

-- The run is all that the text begins with of a class of characters.
structure Spans (cls : Char → Bool) (run tail text : Text) : Prop where
  split : text = run ++ tail
  inside : ∀ c ∈ run, cls c = true
  outside : ∀ c ∈ tail.head?, cls c = false

namespace Spans
variable {cls : Char → Bool} {run tail other rest text : Text}

theorem unique (here : Spans cls run tail text) (there : Spans cls other rest text) :
    run = other ∧ tail = rest := by
  obtain ⟨rfl, inside, outside⟩ := here
  obtain ⟨split, insideOther, outsideOther⟩ := there
  induction run generalizing other with
  | nil =>
    cases other with
    | nil => exact ⟨rfl, split⟩
    | cons d other =>
      subst split
      have excluded := outside d rfl
      rw [insideOther d List.mem_cons_self] at excluded
      cases excluded
  | cons c run ih =>
    cases other with
    | nil =>
      subst split
      have excluded := outsideOther c rfl
      rw [inside c List.mem_cons_self] at excluded
      cases excluded
    | cons d other =>
      obtain ⟨rfl, behind⟩ := List.cons.inj split
      obtain ⟨rfl, rfl⟩ := ih (fun c present => inside c (List.mem_cons_of_mem _ present))
        behind fun c present => insideOther c (List.mem_cons_of_mem _ present)
      exact ⟨rfl, rfl⟩

theorem of_stop (inside : ∀ c ∈ run, cls c = true) {stop : Char} (outside : cls stop = false)
    (tail : Text) : Spans cls run (stop :: tail) (run ++ stop :: tail) := by
  refine ⟨rfl, inside, ?_⟩
  intro c present
  cases present
  exact outside

theorem of_end (inside : ∀ c ∈ run, cls c = true) : Spans cls run [] run := by
  refine ⟨(List.append_nil run).symm, inside, ?_⟩
  intro c present
  cases present

theorem nil {stop : Char} (outside : cls stop = false) (tail : Text) :
    Spans cls [] (stop :: tail) (stop :: tail) := by
  refine of_stop ?_ outside tail
  intro c present
  cases present

-- The run up to a mark that does not begin with a character of the class.
theorem of_mark {mark : Text} (inside : ∀ c ∈ run, cls c = true)
    (outside : mark.head?.map cls = some false) (rest : Text) :
    Spans cls run (mark ++ rest) (run ++ (mark ++ rest)) := by
  cases mark with
  | nil => cases outside
  | cons stop mark => exact .of_stop inside (Option.some.inj outside) (mark ++ rest)

theorem empty {mark : Text} (outside : mark.head?.map cls = some false) (rest : Text) :
    Spans cls [] (mark ++ rest) (mark ++ rest) := by
  refine of_mark ?_ outside rest
  intro c present
  cases present

theorem read {known mark : Text} (spans : Spans cls run tail (known ++ (mark ++ rest)))
    (inside : ∀ c ∈ known, cls c = true) (outside : mark.head?.map cls = some false) :
    run = known ∧ tail = mark ++ rest := spans.unique (.of_mark inside outside rest)

theorem read_mark {mark : Text} (spans : Spans cls run tail (mark ++ rest))
    (outside : mark.head?.map cls = some false) : tail = mark ++ rest :=
  (spans.unique (.empty outside rest)).2

-- The same told from the end of a text.
theorem unique_end {front other word rest : Text} (same : front ++ word = other ++ rest)
    (inside : ∀ c ∈ word, cls c = true) (outside : ∀ c ∈ front.getLast?, cls c = false)
    (insideRest : ∀ c ∈ rest, cls c = true) (outsideOther : ∀ c ∈ other.getLast?, cls c = false) :
    front = other ∧ word = rest := by
  have here : Spans cls word.reverse front.reverse (front ++ word).reverse := by
    refine ⟨List.reverse_append, ?_, ?_⟩
    · simpa using inside
    · simpa using outside
  have there : Spans cls rest.reverse other.reverse (front ++ word).reverse := by
    rw [same]
    refine ⟨List.reverse_append, ?_, ?_⟩
    · simpa using insideRest
    · simpa using outsideOther
  obtain ⟨words, fronts⟩ := here.unique there
  exact ⟨List.reverse_inj.mp fronts, List.reverse_inj.mp words⟩

end Spans

namespace Pattern
variable {α β : Type} {p q : Pattern α} {cls : Char → Bool} {read rest mark : Text} {place : Cursor}

theorem mem_pure {value : α} {way : α × Cursor} :
    way ∈ (pure value : Pattern α) place ↔ way = (value, place) := List.mem_singleton

theorem mem_bind {next : α → Pattern β} {way : β × Cursor} :
    way ∈ (p >>= next) place ↔
      ∃ value stop, (value, stop) ∈ p place ∧ way ∈ next value stop := by
  show way ∈ (p place).flatMap _ ↔ _
  simp only [List.mem_flatMap, Prod.exists]

theorem mem_either {way : α × Cursor} :
    way ∈ either p q place ↔ way ∈ p place ∨ way ∈ q place := List.mem_append

theorem mem_start {way : Unit × Cursor} :
    way ∈ start (.after read rest) ↔ read = [] ∧ way = ((), .after read rest) := by
  simp [start, Cursor.after, List.length_eq_zero_iff]

theorem mem_one {way : Unit × Cursor} :
    way ∈ one cls (.after read rest) ↔
      ∃ c tail, rest = c :: tail ∧ cls c = true ∧ way = ((), .after (read ++ [c]) tail) := by
  cases rest with
  | nil => simp [one]
  | cons c rest =>
    simp only [one, Cursor.after_rest, Cursor.behind_after]
    by_cases inside : cls c = true
    · simp only [inside, if_true, List.mem_singleton]
      constructor
      · rintro rfl
        exact ⟨c, rest, rfl, inside, rfl⟩
      · rintro ⟨d, tail, same, -, rfl⟩
        cases same
        rfl
    · simp only [inside, Bool.false_eq_true, if_false, List.not_mem_nil, false_iff]
      rintro ⟨d, tail, same, insideHere, -⟩
      cases same
      exact inside insideHere

theorem mem_text {way : Unit × Cursor} :
    way ∈ text mark (.after read rest) ↔
      ∃ tail, rest = mark ++ tail ∧ way = ((), .after (read ++ mark) tail) := by
  constructor
  · intro found
    simp only [text, Cursor.after_rest] at found
    cases behind : Text.after? mark rest with
    | none => simp [behind] at found
    | some tail =>
      refine ⟨tail, Text.eq_append_of_after? behind, ?_⟩
      simpa [behind, Cursor.after] using found
  · rintro ⟨tail, rfl, rfl⟩
    simp [text, Text.after?_append, Cursor.after]

theorem mem_literal {mark : String} {way : Unit × Cursor} :
    way ∈ literal mark (.after read rest) ↔
      ∃ tail, rest = mark.toList ++ tail ∧ way = ((), .after (read ++ mark.toList) tail) := mem_text

theorem exists_pass (cls : Char → Bool) (read rest : Text) :
    ∃ passed tail, Spans cls passed tail rest ∧
      pass cls read.length read.getLast? rest = .after (read ++ passed) tail := by
  induction rest generalizing read with
  | nil => exact ⟨[], [], .of_end (by simp), by simp [pass, Cursor.after]⟩
  | cons c rest ih =>
    by_cases inside : cls c = true
    · obtain ⟨passed, tail, ⟨rfl, insideAll, outside⟩, stop⟩ := ih (read ++ [c])
      refine ⟨c :: passed, tail, ⟨rfl, ?_, outside⟩, ?_⟩
      · simpa [inside] using insideAll
      · simpa [pass, inside] using stop
    · have outside : cls c = false := by simpa using inside
      exact ⟨[], c :: rest, .nil outside rest, by simp [pass, outside, Cursor.after]⟩

theorem mem_every {way : Unit × Cursor} :
    way ∈ every cls (.after read rest) ↔
      ∃ passed tail, Spans cls passed tail rest ∧ way = ((), .after (read ++ passed) tail) := by
  obtain ⟨passed, tail, spans, stop⟩ := exists_pass cls read rest
  have only : way ∈ every cls (.after read rest) ↔ way = ((), .after (read ++ passed) tail) := by
    rw [← stop]
    exact List.mem_singleton
  rw [only]
  constructor
  · rintro rfl
    exact ⟨passed, tail, spans, rfl⟩
  · rintro ⟨other, otherTail, spansOther, rfl⟩
    obtain ⟨rfl, rfl⟩ := spans.unique spansOther
    rfl

theorem mem_reach {found : List Cursor} {stop : Cursor} :
    stop ∈ reach cls found (.after read rest) rest ↔
      stop ∈ found ∨ ∃ passed tail, rest = passed ++ tail ∧ (∀ c ∈ passed, cls c = true) ∧
        stop = .after (read ++ passed) tail := by
  induction rest generalizing read found with
  | nil =>
    simp only [reach, List.mem_cons, or_comm]
    refine or_congr_right ⟨?_, ?_⟩
    · rintro rfl
      exact ⟨[], [], rfl, by simp, by simp⟩
    · rintro ⟨passed, tail, split, -, rfl⟩
      obtain ⟨rfl, rfl⟩ := List.append_eq_nil_iff.mp split.symm
      simp
  | cons c rest ih =>
    by_cases inside : cls c = true
    · simp only [reach, inside, if_true, Cursor.behind_after, ih, List.mem_cons]
      constructor
      · rintro ((rfl | old) | ⟨passed, tail, rfl, insideAll, rfl⟩)
        · exact .inr ⟨[], c :: rest, rfl, by simp, by simp⟩
        · exact .inl old
        · exact .inr ⟨c :: passed, tail, rfl, by simpa [inside] using insideAll, by simp⟩
      · rintro (old | ⟨_ | ⟨d, passed⟩, tail, split, insideAll, rfl⟩)
        · exact .inl (.inr old)
        · exact .inl (.inl (by simp [split]))
        · obtain ⟨rfl, rfl⟩ := List.cons.inj split
          refine .inr ⟨passed, tail, rfl, ?_, by simp⟩
          intro e present
          exact insideAll e (List.mem_cons_of_mem _ present)
    · simp only [reach, inside, Bool.false_eq_true, if_false, List.mem_cons]
      constructor
      · rintro (rfl | old)
        · exact .inr ⟨[], c :: rest, rfl, by simp, by simp⟩
        · exact .inl old
      · rintro (old | ⟨_ | ⟨d, passed⟩, tail, split, insideAll, rfl⟩)
        · exact .inr old
        · exact .inl (by simp [split])
        · obtain ⟨rfl, rfl⟩ := List.cons.inj split
          exact absurd (insideAll c List.mem_cons_self) inside

theorem mem_many {way : Unit × Cursor} :
    way ∈ many cls (.after read rest) ↔
      ∃ passed tail, rest = passed ++ tail ∧ (∀ c ∈ passed, cls c = true) ∧
        way = ((), .after (read ++ passed) tail) := by
  simp only [many, Cursor.after_rest, List.mem_map, mem_reach, List.not_mem_nil, false_or]
  constructor
  · rintro ⟨stop, ⟨passed, tail, split, inside, rfl⟩, rfl⟩
    exact ⟨passed, tail, split, inside, rfl⟩
  · rintro ⟨passed, tail, split, inside, rfl⟩
    exact ⟨_, ⟨passed, tail, split, inside, rfl⟩, rfl⟩

theorem mem_atLeast {count : Nat} {way : α × Cursor} :
    way ∈ atLeast count p place ↔ way ∈ p place ∧ place.offset + count ≤ way.2.offset := by
  simp [atLeast, List.mem_filter]

theorem mem_atLeast_every {count : Nat} {way : Unit × Cursor} :
    way ∈ atLeast count (every cls) (.after read rest) ↔ ∃ passed tail,
      Spans cls passed tail rest ∧ count ≤ passed.length ∧ way = ((), .after (read ++ passed) tail) := by
  rw [mem_atLeast, mem_every]
  constructor
  · rintro ⟨⟨passed, tail, spans, rfl⟩, enough⟩
    exact ⟨passed, tail, spans, by simpa [Cursor.after] using enough, rfl⟩
  · rintro ⟨passed, tail, spans, enough, rfl⟩
    exact ⟨⟨passed, tail, spans, rfl⟩, by simpa [Cursor.after] using enough⟩

theorem mem_run {way : Unit × Cursor} :
    way ∈ run cls (.after read rest) ↔ ∃ passed tail,
      Spans cls passed tail rest ∧ 1 ≤ passed.length ∧ way = ((), .after (read ++ passed) tail) :=
  mem_atLeast_every

theorem mem_atLeast_many {count : Nat} {way : Unit × Cursor} :
    way ∈ atLeast count (many cls) (.after read rest) ↔ ∃ passed tail, rest = passed ++ tail ∧
      (∀ c ∈ passed, cls c = true) ∧ count ≤ passed.length ∧
        way = ((), .after (read ++ passed) tail) := by
  rw [mem_atLeast, mem_many]
  constructor
  · rintro ⟨⟨passed, tail, split, inside, rfl⟩, enough⟩
    exact ⟨passed, tail, split, inside, by simpa [Cursor.after] using enough, rfl⟩
  · rintro ⟨passed, tail, split, inside, enough, rfl⟩
    exact ⟨⟨passed, tail, split, inside, rfl⟩, by simpa [Cursor.after] using enough⟩

theorem mem_taken {way : Text × Cursor} :
    way ∈ taken p place ↔ ∃ value stop, (value, stop) ∈ p place ∧
      way = (place.rest.take (stop.offset - place.offset), stop) := by
  simp only [taken, List.mem_map, Prod.exists, eq_comm]

theorem take_between (read passed tail : Text) :
    (Cursor.after read (passed ++ tail)).rest.take ((Cursor.after (read ++ passed) tail).offset -
      (Cursor.after read (passed ++ tail)).offset) = passed := by
  simp [Cursor.after]

theorem mem_taken_atLeast_every {count : Nat} {way : Text × Cursor} :
    way ∈ taken (atLeast count (every cls)) (.after read rest) ↔ ∃ passed tail,
      Spans cls passed tail rest ∧ count ≤ passed.length ∧
        way = (passed, .after (read ++ passed) tail) := by
  simp only [mem_taken, mem_atLeast_every]
  constructor
  · rintro ⟨_, _, ⟨passed, tail, spans, enough, same⟩, rfl⟩
    cases same
    refine ⟨passed, tail, spans, enough, ?_⟩
    rw [spans.split, take_between]
  · rintro ⟨passed, tail, spans, enough, rfl⟩
    refine ⟨_, _, ⟨passed, tail, spans, enough, rfl⟩, ?_⟩
    rw [spans.split, take_between]

theorem mem_taken_every {way : Text × Cursor} :
    way ∈ taken (every cls) (.after read rest) ↔ ∃ passed tail,
      Spans cls passed tail rest ∧ way = (passed, .after (read ++ passed) tail) := by
  simp only [mem_taken, mem_every]
  constructor
  · rintro ⟨_, _, ⟨passed, tail, spans, same⟩, rfl⟩
    cases same
    refine ⟨passed, tail, spans, ?_⟩
    rw [spans.split, take_between]
  · rintro ⟨passed, tail, spans, rfl⟩
    refine ⟨_, _, ⟨passed, tail, spans, rfl⟩, ?_⟩
    rw [spans.split, take_between]

section sequence
-- One lemma for each kind of first part, so that a long sequence is told part by part.
variable {next : α → Pattern β} {way : β × Cursor}

theorem pure_then {value : α} {next : α → Pattern β} :
    ((pure value : Pattern α) >>= next) = next value := by
  funext place
  exact List.flatMap_singleton _ _

theorem bind_then {γ : Type} {r : Pattern γ} {inner : γ → Pattern α} :
    way ∈ ((r >>= inner) >>= next) place ↔ way ∈ (r >>= fun value => inner value >>= next) place := by
  simp only [mem_bind]
  constructor
  · rintro ⟨value, stop, ⟨outer, between, first, second⟩, found⟩
    exact ⟨outer, between, first, value, stop, second, found⟩
  · rintro ⟨outer, between, first, value, stop, second, found⟩
    exact ⟨value, stop, ⟨outer, between, first, second⟩, found⟩

theorem either_then : way ∈ (either p q >>= next) place ↔
    way ∈ (p >>= next) place ∨ way ∈ (q >>= next) place := by
  simp only [mem_bind, mem_either, or_and_right, exists_or]

theorem optional_then {next : Option α → Pattern β} : way ∈ (optional p >>= next) place ↔
    way ∈ (p >>= fun value => next (some value)) place ∨ way ∈ next none place := by
  simp only [optional, either_then, bind_then, pure_then]

theorem taken_atLeast_every_then {count : Nat} {next : Text → Pattern β} :
    way ∈ (taken (atLeast count (every cls)) >>= next) (.after read rest) ↔ ∃ passed tail,
      Spans cls passed tail rest ∧ count ≤ passed.length ∧
        way ∈ next passed (.after (read ++ passed) tail) := by
  simp only [mem_bind, mem_taken_atLeast_every]
  constructor
  · rintro ⟨_, _, ⟨_, tail, spans, enough, same⟩, found⟩
    cases same
    exact ⟨_, tail, spans, enough, found⟩
  · rintro ⟨passed, tail, spans, enough, found⟩
    exact ⟨_, _, ⟨passed, tail, spans, enough, rfl⟩, found⟩

theorem taken_every_then {next : Text → Pattern β} :
    way ∈ (taken (every cls) >>= next) (.after read rest) ↔ ∃ passed tail,
      Spans cls passed tail rest ∧ way ∈ next passed (.after (read ++ passed) tail) := by
  simp only [mem_bind, mem_taken_every]
  constructor
  · rintro ⟨_, _, ⟨_, tail, spans, same⟩, found⟩
    cases same
    exact ⟨_, tail, spans, found⟩
  · rintro ⟨passed, tail, spans, found⟩
    exact ⟨_, _, ⟨passed, tail, spans, rfl⟩, found⟩

variable {next : Unit → Pattern β}

theorem start_then : way ∈ (start >>= next) (.after read rest) ↔
    read = [] ∧ way ∈ next () (.after read rest) := by
  simp only [mem_bind, mem_start]
  constructor
  · rintro ⟨_, _, ⟨empty, same⟩, found⟩
    cases same
    exact ⟨empty, found⟩
  · rintro ⟨empty, found⟩
    exact ⟨_, _, ⟨empty, rfl⟩, found⟩

theorem one_then : way ∈ (one cls >>= next) (.after read rest) ↔ ∃ c tail, rest = c :: tail ∧
    cls c = true ∧ way ∈ next () (.after (read ++ [c]) tail) := by
  simp only [mem_bind, mem_one]
  constructor
  · rintro ⟨_, _, ⟨c, tail, split, inside, same⟩, found⟩
    cases same
    exact ⟨c, tail, split, inside, found⟩
  · rintro ⟨c, tail, split, inside, found⟩
    exact ⟨_, _, ⟨c, tail, split, inside, rfl⟩, found⟩

-- What a boundary takes: nothing at the start of the text, else one character outside the class.
def Opens (cls : Char → Bool) (read opening : Text) : Prop :=
  (read = [] ∧ opening = []) ∨ ∃ c, opening = [c] ∧ cls c = false

theorem Opens.getLast? {opening : Text} (opens : Opens cls read opening) :
    ∀ c ∈ (read ++ opening).getLast?, cls c = false := by
  rcases opens with ⟨rfl, rfl⟩ | ⟨d, rfl, outside⟩
  · intro c present
    cases present
  · intro c present
    rw [List.getLast?_append] at present
    cases present
    exact outside

theorem boundary_then : way ∈ (boundary cls >>= next) (.after read rest) ↔ ∃ opening tail,
    rest = opening ++ tail ∧ Opens cls read opening ∧
      way ∈ next () (.after (read ++ opening) tail) := by
  simp only [boundary, either_then, start_then, one_then, Bool.not_eq_true']
  constructor
  · rintro (⟨empty, found⟩ | ⟨c, tail, rfl, outside, found⟩)
    · exact ⟨[], rest, rfl, .inl ⟨empty, rfl⟩, by simpa using found⟩
    · exact ⟨[c], tail, rfl, .inr ⟨c, rfl, outside⟩, found⟩
  · rintro ⟨_, tail, rfl, ⟨empty, rfl⟩ | ⟨c, rfl, outside⟩, found⟩
    · exact .inl ⟨empty, by simpa using found⟩
    · exact .inr ⟨c, tail, rfl, outside, found⟩

theorem text_then : way ∈ (text mark >>= next) (.after read rest) ↔ ∃ tail, rest = mark ++ tail ∧
    way ∈ next () (.after (read ++ mark) tail) := by
  simp only [mem_bind, mem_text]
  constructor
  · rintro ⟨_, _, ⟨tail, split, same⟩, found⟩
    cases same
    exact ⟨tail, split, found⟩
  · rintro ⟨tail, split, found⟩
    exact ⟨_, _, ⟨tail, split, rfl⟩, found⟩

theorem literal_then {mark : String} : way ∈ (literal mark >>= next) (.after read rest) ↔
    ∃ tail, rest = mark.toList ++ tail ∧ way ∈ next () (.after (read ++ mark.toList) tail) :=
  text_then

theorem every_then : way ∈ (every cls >>= next) (.after read rest) ↔ ∃ passed tail,
    Spans cls passed tail rest ∧ way ∈ next () (.after (read ++ passed) tail) := by
  simp only [mem_bind, mem_every]
  constructor
  · rintro ⟨_, _, ⟨passed, tail, spans, same⟩, found⟩
    cases same
    exact ⟨passed, tail, spans, found⟩
  · rintro ⟨passed, tail, spans, found⟩
    exact ⟨_, _, ⟨passed, tail, spans, rfl⟩, found⟩

theorem run_then : way ∈ (run cls >>= next) (.after read rest) ↔ ∃ passed tail,
    Spans cls passed tail rest ∧ 1 ≤ passed.length ∧
      way ∈ next () (.after (read ++ passed) tail) := by
  simp only [mem_bind, mem_run]
  constructor
  · rintro ⟨_, _, ⟨passed, tail, spans, filled, same⟩, found⟩
    cases same
    exact ⟨passed, tail, spans, filled, found⟩
  · rintro ⟨passed, tail, spans, filled, found⟩
    exact ⟨_, _, ⟨passed, tail, spans, filled, rfl⟩, found⟩

theorem atLeast_many_then {count : Nat} :
    way ∈ (atLeast count (many cls) >>= next) (.after read rest) ↔ ∃ passed tail,
      rest = passed ++ tail ∧ (∀ c ∈ passed, cls c = true) ∧ count ≤ passed.length ∧
        way ∈ next () (.after (read ++ passed) tail) := by
  simp only [mem_bind, mem_atLeast_many]
  constructor
  · rintro ⟨_, _, ⟨passed, tail, split, inside, enough, same⟩, found⟩
    cases same
    exact ⟨passed, tail, split, inside, enough, found⟩
  · rintro ⟨passed, tail, split, inside, enough, found⟩
    exact ⟨_, _, ⟨passed, tail, split, inside, enough, rfl⟩, found⟩

end sequence
end Pattern
end StreamLinks
