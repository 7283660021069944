import StreamLinks.Proofs.Script.Dependencies
import StreamLinks.Proofs.Text.Cutting
import StreamLinks.Script.FunctionName
/-!
Definitions of functions with one argument.

The search for the definitions with an argument takes the character before the name and the opening brace. Apart from
these no two definitions touch. So a definition directly behind the brace of one that is found is passed over, and the
one directly behind the brace of that is found again.
-/
namespace StreamLinks.Script
open Pattern

-- A definition of a function with one argument, from its name to its opening brace.
structure Opening where
  word : Word
  argument : Word
  beforeSign : Text
  behindSign : Text
  beforeArgument : Text
  behindArgument : Text
  beforeBrace : Text
  apart : ∀ gap ∈ [beforeSign, behindSign, beforeArgument, behindArgument, beforeBrace], Gap gap

namespace Opening
variable {opening known : Opening} {front part tail behind rest : Text}

def text (opening : Opening) : Text := opening.word.text ++ (opening.beforeSign ++ ("=".toList ++ (opening.behindSign ++
  ("function(".toList ++ (opening.beforeArgument ++ (opening.argument.text ++ (opening.behindArgument ++ (")".toList ++
    (opening.beforeBrace ++ "\x7b".toList)))))))))

theorem text_append (opening : Opening) (tail : Text) : opening.text ++ tail = opening.word.text ++
    (opening.beforeSign ++ ("=".toList ++ (opening.behindSign ++ ("function(".toList ++ (opening.beforeArgument ++
      (opening.argument.text ++ (opening.behindArgument ++ (")".toList ++ (opening.beforeBrace ++
        ("\x7b".toList ++ tail)))))))))) := by
  unfold text
  simp only [List.append_assoc]

theorem markedGap_unique {gap other mark : Text} (apart : Gap gap) (apartOther : Gap other)
    (outside : mark.head?.map Text.isBlank = some false)
    (same : gap ++ (mark ++ rest) = other ++ (mark ++ behind)) : gap = other ∧ rest = behind := by
  have there : Spans Text.isBlank other (mark ++ behind) (gap ++ (mark ++ rest)) := by
    rw [same]
    exact .of_mark apartOther outside behind
  obtain ⟨gaps, marks⟩ := (Spans.of_mark apart outside rest).unique there
  exact ⟨gaps, List.append_cancel_left marks⟩

theorem word_unique {word other : Word} {gap space mark : Text} (apart : Gap gap) (apartOther : Gap space)
    (outside : mark.head?.map isNameChar = some false) (visible : mark.head?.map Text.isBlank = some false)
    (same : word.text ++ (gap ++ (mark ++ rest)) = other.text ++ (space ++ (mark ++ behind))) :
    word = other ∧ gap = space ∧ rest = behind := by
  have here : Spans isNameChar word.text (gap ++ (mark ++ rest)) (word.text ++ (gap ++ (mark ++ rest))) :=
    ⟨rfl, word.plain, outside_of_gap apart outside rest⟩
  obtain ⟨words, gaps⟩ := here.unique ⟨same, other.plain, outside_of_gap apartOther outside behind⟩
  exact ⟨Word.eq_of_text words, markedGap_unique apart apartOther visible gaps⟩

-- A definition is told by its characters.
theorem unique (same : opening.text ++ tail = known.text ++ behind) : opening = known ∧ tail = behind := by
  rw [text_append, text_append] at same
  obtain ⟨word, argument, beforeSign, behindSign, beforeArgument, behindArgument, beforeBrace, apart⟩ := opening
  obtain ⟨other, otherArgument, _, _, _, _, _, apartOther⟩ := known
  have blanks := apart
  have blanksOther := apartOther
  simp only [List.forall_mem_cons] at blanks blanksOther
  obtain ⟨sign, behindSign, argument, behindArgument, brace, -⟩ := blanks
  obtain ⟨otherSign, otherBehind, otherArgument, otherAfter, otherBrace, -⟩ := blanksOther
  dsimp only at same
  obtain ⟨rfl, rfl, behindFirst⟩ := word_unique sign otherSign rfl rfl same
  obtain ⟨rfl, behindKeyword⟩ := markedGap_unique behindSign otherBehind rfl behindFirst
  obtain ⟨rfl, arguments⟩ := gap_unique argument otherArgument behindKeyword
  obtain ⟨rfl, rfl, behindBracket⟩ := word_unique behindArgument otherAfter rfl rfl arguments
  obtain ⟨rfl, rfl⟩ := markedGap_unique brace otherBrace rfl behindBracket
  exact ⟨rfl, rfl⟩

-- The name with the blanks behind it, and what stands between the equals sign and the brace.
theorem exists_sign (opening : Opening) : ∃ inner, '=' ∉ inner ∧
    opening.text = (opening.word.text ++ opening.beforeSign) ++ '=' :: (inner ++ ['{']) := by
  have keyword : '=' ∉ "function(".toList := by decide
  have noSign {gap : Text} (apart : Gap gap) : '=' ∉ gap := not_mem_of_all apart rfl
  refine ⟨opening.behindSign ++ ("function(".toList ++ (opening.beforeArgument ++ (opening.argument.text ++
    (opening.behindArgument ++ (")".toList ++ opening.beforeBrace))))), ?_, ?_⟩
  · simp only [List.mem_append, not_or]
    exact ⟨noSign (opening.apart _ (by simp)), keyword, noSign (opening.apart _ (by simp)),
      not_mem_of_all opening.argument.plain rfl, noSign (opening.apart _ (by simp)), by decide,
      noSign (opening.apart _ (by simp))⟩
  · have sign : "=".toList = ['='] := rfl
    have brace : "\x7b".toList = ['{'] := rfl
    unfold text
    simp only [sign, brace, List.append_assoc, List.cons_append, List.nil_append]

theorem two_le_length (opening : Opening) : 2 ≤ opening.text.length := by
  obtain ⟨inner, -, form⟩ := opening.exists_sign
  simp only [form, List.length_append, List.length_cons]
  omega

theorem exists_first (opening : Opening) (tail : Text) :
    ∃ first rest, opening.text ++ tail = first :: rest ∧ isNameChar first = true := by
  obtain ⟨first, others, named⟩ := List.exists_cons_of_ne_nil opening.word.filled
  rw [text_append, named, List.cons_append]
  exact ⟨first, _, rfl, opening.word.plain first (by simp [named])⟩

-- A definition begins neither at a blank or an equals sign nor where a brace comes before the next equals sign.
theorem not_blank_before (apart : Gap part) : opening.text ++ tail ≠ part ++ '=' :: rest := by
  intro same
  obtain ⟨first, others, starts, plain⟩ := opening.exists_first tail
  have outside : ∀ c ∈ (part ++ ("=".toList ++ rest)).head?, isNameChar c = false := outside_of_gap apart rfl rest
  rw [show part ++ ("=".toList ++ rest) = first :: others from same.symm.trans starts] at outside
  exact Bool.false_ne_true ((outside first rfl).symm.trans plain)

theorem not_brace_before (noSign : '=' ∉ part) : opening.text ++ tail ≠ part ++ '{' :: behind := by
  intro same
  obtain ⟨inner, -, form⟩ := opening.exists_sign
  have noBrace : '{' ∉ (opening.word.text ++ opening.beforeSign) ++ ['='] := by
    simp only [List.mem_append, not_or]
    exact ⟨⟨not_mem_of_all opening.word.plain rfl, not_mem_of_all (opening.apart _ (by simp)) rfl⟩, by decide⟩
  have shared : [] ++ ((opening.word.text ++ opening.beforeSign ++ ['=']) ++ (inner ++ '{' :: tail)) =
      part ++ '{' :: behind := by
    rw [← same, form]
    simp
  rcases Text.beside noBrace shared with ⟨more, rfl⟩ | ⟨more, impossible⟩
  · exact noSign (by simp)
  · cases part <;> cases impossible

-- A definition that begins within another one, behind its start, begins behind its brace.
theorem whole_of_leading (filled : part ≠ []) (leading : part <+: known.text) (free : Free part)
    (same : part ++ (opening.text ++ tail) = known.text ++ behind) : part = known.text := by
  obtain ⟨rest, split⟩ := leading
  obtain ⟨inner, noSign, form⟩ := known.exists_sign
  rw [← split, List.append_assoc] at same
  have there := List.append_cancel_left same
  rw [form] at split
  rcases List.append_eq_append_iff.mp split with ⟨more, sign, rfl⟩ | ⟨more, rfl, inside⟩
  · -- It would begin in the name, or in the blanks behind it.
    rcases List.append_eq_append_iff.mp sign with ⟨blanks, rfl, gap⟩ | ⟨blanks, word, rfl⟩
    · have apart : Gap more := fun c present => known.apart _ (by simp) c (gap ▸ List.mem_append_right blanks present)
      exact absurd (there.trans (List.append_assoc more ('=' :: _) behind)) (not_blank_before apart)
    · have plain := known.word.plain _ (word ▸ List.mem_append_left blanks (List.getLast_mem filled))
      have outside := free _ (List.getLast?_eq_some_getLast filled)
      simp [isPathChar, plain] at outside
  · cases more with
    | nil =>
      have sign : rest = '=' :: (inner ++ ['{']) := inside.symm
      rw [sign] at there
      have blanks : Gap [] := List.forall_mem_nil _
      exact absurd there (not_blank_before blanks)
    | cons c more =>
      rw [List.cons_append] at inside
      obtain ⟨rfl, behindSign⟩ := List.cons.inj inside
      rcases List.eq_nil_or_concat rest with rfl | ⟨others, d, rfl⟩
      · rw [form, behindSign, List.append_nil]
      · rw [List.concat_eq_append, ← List.append_assoc] at behindSign
        obtain ⟨rfl, brace⟩ := List.append_inj' behindSign rfl
        obtain rfl : '{' = d := List.head_eq_of_cons_eq brace
        rw [List.concat_eq_append, List.append_assoc] at there
        exact absurd there (not_brace_before fun present => noSign (List.mem_append_right more present))

end Opening

section ways
variable {read rest : Text} {way : (Text × Text) × Cursor}

theorem mem_parameterStart : way ∈ parameterStart (.after read rest) ↔ ∃ passed tail, ∃ opening : Opening,
    rest = passed ++ (opening.text ++ tail) ∧ Opens isPathChar read passed ∧
      way = ((opening.word.text, opening.argument.text), .after (read ++ (passed ++ opening.text)) tail) := by
  simp only [parameterStart, bareStart_then, name_then, blanks_then, literal_then, mem_pure]
  constructor
  · rintro ⟨passed, _, rfl, opens, word, _, spansWord, filled, sign, _, spansSign, _, rfl, behind, _, spansBehind, _,
      rfl, before, _, spansBefore, argument, _, spansArgument, filledArgument, after, _, spansAfter, _, rfl, brace, _,
      spansBrace, tail, rfl, rfl⟩
    obtain ⟨word, rfl⟩ := exists_word spansWord filled
    obtain ⟨argument, rfl⟩ := exists_word spansArgument filledArgument
    have apart : ∀ gap ∈ [sign, behind, before, after, brace], Gap gap := by
      simp only [List.forall_mem_cons]
      exact ⟨spansSign.inside, spansBehind.inside, spansBefore.inside, spansAfter.inside, spansBrace.inside,
        List.forall_mem_nil _⟩
    refine ⟨passed, tail, ⟨word, argument, _, _, _, _, _, apart⟩, ?_, opens, ?_⟩
    · rw [Opening.text_append, spansWord.split, spansSign.split, spansBehind.split, spansBefore.split,
        spansArgument.split, spansAfter.split, spansBrace.split]
    · simp [Opening.text]
  · rintro ⟨passed, tail, opening, rfl, opens, rfl⟩
    have apart := opening.apart
    simp only [List.forall_mem_cons] at apart
    obtain ⟨sign, behindSign, before, after, brace, -⟩ := apart
    rw [Opening.text_append]
    refine ⟨passed, _, rfl, opens, opening.word.text, _, ⟨rfl, opening.word.plain, outside_of_gap sign rfl _⟩,
      opening.word.length_pos, _, _, .of_mark sign rfl _, _, rfl, _, _, .of_mark behindSign rfl _, _, rfl, _, _,
      ⟨rfl, before, opening.argument.blank_outside _⟩, opening.argument.text, _,
      ⟨rfl, opening.argument.plain, outside_of_gap after rfl _⟩, opening.argument.length_pos, _, _,
      .of_mark after rfl _, _, rfl, _, _, .of_mark brace rfl _, tail, rfl, ?_⟩
    unfold Opening.text
    simp only [List.append_assoc]

end ways
section candidates
variable {argument : Word} {script before front after tail behind passed taken : Text}
  {found : Match (Text × Text)} {opening known : Opening}

-- The definitions with this argument, whether or not they overlap.
def definitionsOf (argument script : Text) : List (Match (Text × Text)) :=
  (parameterStart.everywhere script).filter fun start => start.value.2 = argument

-- The match of a definition. It begins one character earlier, unless the definition begins the script.
def Opening.located (opening : Opening) (before after : Text) : Match (Text × Text) :=
  ⟨before.length - 1, .after (before ++ opening.text) after, (opening.word.text, opening.argument.text)⟩

theorem opens_unique (opens : Opens isPathChar front passed) (opensOther : Opens isPathChar front taken)
    (same : passed ++ (opening.text ++ tail) = taken ++ (known.text ++ behind)) : passed = taken := by
  have inside (opening : Opening) {tail rest : Text} {c : Char} (outside : isPathChar c = false) :
      opening.text ++ tail ≠ c :: rest := by
    intro split
    obtain ⟨first, _, starts, plain⟩ := opening.exists_first tail
    obtain rfl := (List.cons.inj (starts.symm.trans split)).1
    simp [isPathChar, plain] at outside
  rcases opens with ⟨-, rfl⟩ | ⟨c, rfl, outside⟩
  · rcases opensOther with ⟨-, rfl⟩ | ⟨d, rfl, outside⟩
    · rfl
    · exact absurd same (inside opening outside)
  · rcases opensOther with ⟨-, rfl⟩ | ⟨d, rfl, -⟩
    · exact absurd same.symm (inside known outside)
    · rw [(List.cons.inj same).1]

theorem length_of_opens (opens : Opens isPathChar front passed) : front.length = (front ++ passed).length - 1 := by
  rcases opens with ⟨rfl, rfl⟩ | ⟨c, rfl, -⟩
  · rfl
  · simp

theorem mem_definitionsOf : found ∈ definitionsOf argument.text script ↔ ∃ before after, ∃ opening : Opening,
    script = before ++ (opening.text ++ after) ∧ Free before ∧ opening.argument = argument ∧
      found = opening.located before after := by
  rw [definitionsOf, List.mem_filter, decide_eq_true_eq]
  constructor
  · rintro ⟨present, fits⟩
    obtain ⟨front, rest, rfl, start, way⟩ := way_of_mem_everywhere present
    obtain ⟨passed, after, opening, rfl, opens, same⟩ := mem_parameterStart.mp way
    obtain ⟨_, stop, value⟩ := found
    obtain ⟨rfl, rfl⟩ := Prod.mk.inj same
    dsimp only at start fits
    refine ⟨front ++ passed, after, opening, by simp, opens.getLast?, Word.eq_of_text fits, ?_⟩
    rw [Opening.located, ← length_of_opens opens, start, List.append_assoc]
  · rintro ⟨before, after, opening, rfl, free, rfl, rfl⟩
    obtain ⟨front, passed, rfl, opens⟩ := free.opens
    refine ⟨?_, rfl⟩
    have way := mem_parameterStart.mpr ⟨passed, after, opening, rfl, opens, rfl⟩
    have present := mem_everywhere (p := parameterStart) (by simp [Opening.text]) way ?_
    · rw [Opening.located, ← length_of_opens opens, List.append_assoc, List.append_assoc]
      exact present
    · intro other found
      obtain ⟨taken, behind, known, same, opensOther, rfl⟩ := mem_parameterStart.mp found
      obtain rfl := opens_unique opens opensOther same
      obtain ⟨rfl, rfl⟩ := Opening.unique (List.append_cancel_left same)
      rfl

theorem definitionsOf_sorted (argument script : Text) :
    (definitionsOf argument script).Pairwise (·.start < ·.start) := (pairwise_everywhere _ _).filter _

end candidates

section chains

-- The definitions around a place, each directly behind the opening brace of the one before it, the nearest first.
inductive Chained (argument : Word) : List Word → Text → Prop where
  | outermost (outside : ∀ front (opening : Opening), Free front → opening.argument = argument →
      before ≠ front ++ opening.text) : Chained argument [] before
  | inside (opening : Opening) (free : Free front) (argued : opening.argument = argument)
      (outer : Chained argument names front) : Chained argument (opening.word :: names) (front ++ opening.text)

variable {argument : Word} {before front after behind : Text} {names : List Word}
  {found : Match (Text × Text)} {opening known : Opening}

theorem exists_chained (argument : Word) (before : Text) : ∃ names, Chained argument names before := by
  by_cases inside : ∃ front, ∃ opening : Opening, Free front ∧ opening.argument = argument ∧
      before = front ++ opening.text
  · obtain ⟨front, opening, free, argued, rfl⟩ := inside
    obtain ⟨names, outer⟩ := exists_chained argument front
    exact ⟨opening.word :: names, .inside opening free argued outer⟩
  · refine ⟨[], .outermost ?_⟩
    intro front opening free argued split
    exact inside ⟨front, opening, free, argued, split⟩
termination_by before.length
decreasing_by
  have long := opening.two_le_length
  simp only [*, List.length_append]
  omega

theorem located_mem (free : Free before) (argued : opening.argument = argument) (after : Text) :
    opening.located before after ∈ definitionsOf argument.text (before ++ (opening.text ++ after)) :=
  mem_definitionsOf.mpr ⟨before, after, opening, rfl, free, argued, rfl⟩

-- A definition that begins within another one begins directly behind it.
theorem eq_of_within (free : Free before) (same : before ++ (opening.text ++ after) = front ++ (known.text ++ behind))
    (later : front.length < before.length) (within : before.length ≤ (front ++ known.text).length) :
    before = front ++ known.text ∧ behind = opening.text ++ after := by
  obtain ⟨part, filled, leading, rfl⟩ := exists_overlap same later within
  have freePart : Free part := by
    intro c present
    exact free c (by simp [List.getLast?_append, Option.mem_def.mp present])
  rw [List.append_assoc] at same
  have inner := List.append_cancel_left same
  obtain rfl := Opening.whole_of_leading filled leading freePart inner
  exact ⟨rfl, (List.append_cancel_left inner).symm⟩

theorem not_shorter (free : Free front) (same : front ++ known.text = before ++ opening.text) :
    ¬ before.length < front.length := by
  intro shorter
  have long := known.two_le_length
  have whole : front ++ (known.text ++ []) = before ++ (opening.text ++ []) := by simpa using same
  have lengths := congrArg List.length same
  simp only [List.length_append] at lengths
  have within : front.length ≤ (before ++ opening.text).length := by
    rw [List.length_append]
    omega
  have split := congrArg List.length (eq_of_within free whole shorter within).1
  rw [List.length_append] at split
  omega

-- A definition is told by its end.
theorem around_unique (free : Free front) (freeOther : Free before)
    (same : front ++ known.text = before ++ opening.text) : front = before ∧ known = opening := by
  have lengths := Nat.le_antisymm (Nat.le_of_not_lt (not_shorter free same))
    (Nat.le_of_not_lt (not_shorter freeOther same.symm))
  obtain ⟨rfl, texts⟩ := List.append_inj same lengths
  have known : known.text ++ [] = opening.text ++ [] := by rw [texts]
  exact ⟨rfl, (Opening.unique known).1⟩

-- What reaches over a definition is the one directly around it.
theorem eq_of_over (present : found ∈ definitionsOf argument.text (before ++ (opening.text ++ after)))
    (free : Free before) (earlier : found.start < before.length - 1) (across : before.length - 1 < found.stop.offset) :
    ∃ front, ∃ known : Opening, Free front ∧ known.argument = argument ∧ before = front ++ known.text ∧
      found = known.located front (opening.text ++ after) := by
  obtain ⟨front, behind, known, same, freeFront, argued, rfl⟩ := mem_definitionsOf.mp present
  have later : front.length - 1 < before.length - 1 := earlier
  have within : before.length - 1 < (front ++ known.text).length := across
  obtain ⟨whole, rfl⟩ := eq_of_within free same (by omega) (by omega)
  exact ⟨front, known, freeFront, argued, whole, rfl⟩

-- By induction on the chain: a definition is found exactly if the one directly around it is not.
theorem located_kept_iff (chained : Chained argument names before) (free : Free before)
    (argued : opening.argument = argument) (after : Text) :
    opening.located before after ∈ apart 0 (definitionsOf argument.text (before ++ (opening.text ++ after))) ↔
      names.length % 2 = 0 := by
  induction chained generalizing opening after with
  | @outermost before outside =>
    refine iff_of_true (mem_apart_of_alone (definitionsOf_sorted _ _) (located_mem free argued after) ?_) rfl
    intro other present earlier
    refine Nat.le_of_not_lt fun across => ?_
    obtain ⟨front, known, freeFront, arguedFront, whole, -⟩ := eq_of_over present free earlier across
    exact outside front known freeFront arguedFront whole
  | @inside front names known freeFront arguedFront outer ih =>
    have around := ih freeFront arguedFront (opening.text ++ after)
    rw [← List.append_assoc front] at around
    have step : (known.word :: names).length % 2 = 0 ↔ ¬ names.length % 2 = 0 := by
      rw [List.length_cons]
      omega
    rw [step, ← around]
    have long := known.two_le_length
    refine mem_apart_behind (definitionsOf_sorted _ _) (located_mem free argued after) ?_ ?_ ?_
    · simp only [Opening.located, List.length_append]
      omega
    · simp only [Opening.located, Cursor.after, List.length_append]
      omega
    · intro other present earlier across
      obtain ⟨start, first, freeStart, -, whole, rfl⟩ := eq_of_over present free earlier across
      obtain ⟨rfl, rfl⟩ := around_unique freeFront freeStart whole
      rfl

end chains

end StreamLinks.Script
