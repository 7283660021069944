import StreamLinks.Proofs.Search.Ways
import StreamLinks.Proofs.Text.Classes
import StreamLinks.Script.Lexeme
/-!
Names and the blanks between them.

A word is a name as scripts write it. Its characters are neither blank nor any of the marks around it,
so it is what a pattern for names takes at its place, all of it.
-/
namespace StreamLinks.Script
open Pattern

theorem toNat_of_isNameChar {c : Char} (inside : isNameChar c = true) :
    c.toNat = 36 ∨ c.toNat = 95 ∨ (48 ≤ c.toNat ∧ c.toNat ≤ 57) ∨ (65 ≤ c.toNat ∧ c.toNat ≤ 90) ∨
      (97 ≤ c.toNat ∧ c.toNat ≤ 122) := by
  simp only [isNameChar, Bool.or_eq_true, Text.isAlphanum_iff, beq_iff_eq] at inside
  rcases inside with (alphanum | rfl) | rfl
  · omega
  · exact .inr (.inl rfl)
  · exact .inl rfl

theorem isBlank_of_isNameChar {c : Char} (inside : isNameChar c = true) : Text.isBlank c = false := by
  have bounds := toNat_of_isNameChar inside
  simp only [Text.isBlank, Text.inRanges, Text.blankRanges, List.any_cons, List.any_nil,
    Bool.or_false, Bool.or_eq_false_iff, Bool.and_eq_false_iff, decide_eq_false_iff_not]
  omega

theorem isNameChar_of_isBlank {c : Char} (blank : Text.isBlank c = true) : isNameChar c = false := by
  rw [Bool.eq_false_iff]
  intro inside
  rw [isBlank_of_isNameChar inside] at blank
  cases blank

-- What may stand between two parts of a statement.
def Gap (gap : Text) : Prop := ∀ c ∈ gap, Text.isBlank c = true

theorem gap_space : Gap " ".toList := List.all_eq_true.mp rfl

theorem outside_of_head {cls : Char → Bool} {front : Text} (filled : front ≠ [])
    (outside : ∀ c ∈ front, cls c = false) (back : Text) : ∀ c ∈ (front ++ back).head?, cls c = false := by
  obtain ⟨first, front, rfl⟩ := List.exists_cons_of_ne_nil filled
  intro c present
  cases present
  exact outside first List.mem_cons_self

-- A gap and a mark behind it end a name.
theorem outside_of_gap {gap mark : Text} (apart : Gap gap) (outside : mark.head?.map isNameChar = some false)
    (rest : Text) : ∀ c ∈ (gap ++ (mark ++ rest)).head?, isNameChar c = false := by
  cases gap with
  | nil => exact (Spans.empty outside rest).outside
  | cons first gap =>
    exact outside_of_head (List.cons_ne_nil _ _) (fun c present => isNameChar_of_isBlank (apart c present)) _

-- A name as minified scripts write it.
structure Word where
  text : Text
  filled : text ≠ []
  plain : ∀ c ∈ text, isNameChar c = true

theorem Word.length_pos (word : Word) : 1 ≤ word.text.length := List.length_pos_iff.mpr word.filled

theorem Word.blank_outside (word : Word) (rest : Text) :
    ∀ c ∈ (word.text ++ rest).head?, Text.isBlank c = false :=
  outside_of_head word.filled (fun c present => isBlank_of_isNameChar (word.plain c present)) rest

theorem Word.eq_of_text {word other : Word} (same : word.text = other.text) : word = other := by
  cases word
  cases other
  cases same
  rfl

theorem exists_word {run tail rest : Text} (spans : Spans isNameChar run tail rest)
    (filled : 1 ≤ run.length) : ∃ word : Word, word.text = run :=
  ⟨⟨run, List.length_pos_iff.mp filled, spans.inside⟩, rfl⟩

section
variable {β : Type} {read rest : Text} {way : β × Cursor} {next : Unit → Pattern β}

theorem name_then {next : Text → Pattern β} : way ∈ (name >>= next) (.after read rest) ↔
    ∃ word tail, Spans isNameChar word tail rest ∧ 1 ≤ word.length ∧
      way ∈ next word (.after (read ++ word) tail) := taken_atLeast_every_then

theorem digits_then {next : Text → Pattern β} : way ∈ (digits >>= next) (.after read rest) ↔
    ∃ numeral tail, Spans Text.isDecimalDigit numeral tail rest ∧ 1 ≤ numeral.length ∧
      way ∈ next numeral (.after (read ++ numeral) tail) := taken_atLeast_every_then

theorem blanks_then : way ∈ (blanks >>= next) (.after read rest) ↔
    ∃ gap tail, Spans Text.isBlank gap tail rest ∧
      way ∈ next () (.after (read ++ gap) tail) := every_then

theorem someBlanks_then : way ∈ (someBlanks >>= next) (.after read rest) ↔
    ∃ gap tail, Spans Text.isBlank gap tail rest ∧ 1 ≤ gap.length ∧
      way ∈ next () (.after (read ++ gap) tail) := run_then

theorem blanksBeforeWord_then : way ∈ (blanksBeforeWord >>= next) (.after read rest) ↔
    ∃ gap tail, rest = gap ++ tail ∧ (∀ c ∈ gap, Text.isBlank c = true) ∧ 1 ≤ gap.length ∧
      way ∈ next () (.after (read ++ gap) tail) := atLeast_many_then

theorem nameStart_then : way ∈ (nameStart >>= next) (.after read rest) ↔
    ∃ opening tail, rest = opening ++ tail ∧ Opens isNameChar read opening ∧
      way ∈ next () (.after (read ++ opening) tail) := boundary_then

theorem bareStart_then : way ∈ (bareStart >>= next) (.after read rest) ↔
    ∃ opening tail, rest = opening ++ tail ∧ Opens isPathChar read opening ∧
      way ∈ next () (.after (read ++ opening) tail) := boundary_then

theorem declarator_then : way ∈ (declarator >>= next) (.after read rest) ↔
    ∃ keyword gap tail, rest = keyword ++ gap ++ tail ∧
      keyword ∈ ["var".toList, "let".toList, "const".toList] ∧
      (∀ c ∈ gap, Text.isBlank c = true) ∧ 1 ≤ gap.length ∧
      way ∈ next () (.after (read ++ keyword ++ gap) tail) := by
  simp only [declarator, bind_then, either_then, literal_then, blanksBeforeWord_then]
  constructor
  · rintro (⟨_, rfl, gap, tail, rfl, blank, filled, found⟩ |
      ⟨_, rfl, gap, tail, rfl, blank, filled, found⟩ | ⟨_, rfl, gap, tail, rfl, blank, filled, found⟩)
    · exact ⟨_, gap, tail, (List.append_assoc _ _ _).symm, by decide, blank, filled, found⟩
    · exact ⟨_, gap, tail, (List.append_assoc _ _ _).symm, by decide, blank, filled, found⟩
    · exact ⟨_, gap, tail, (List.append_assoc _ _ _).symm, by decide, blank, filled, found⟩
  · rintro ⟨keyword, gap, tail, rfl, known, blank, filled, found⟩
    simp only [List.mem_cons, List.not_mem_nil, or_false] at known
    rcases known with rfl | rfl | rfl
    · exact .inl ⟨_, List.append_assoc _ _ _, gap, tail, rfl, blank, filled, found⟩
    · exact .inr (.inl ⟨_, List.append_assoc _ _ _, gap, tail, rfl, blank, filled, found⟩)
    · exact .inr (.inr ⟨_, List.append_assoc _ _ _, gap, tail, rfl, blank, filled, found⟩)
end

end StreamLinks.Script
