import StreamLinks.Script.Code
/-!
The brace that closes a body.

In a body every brace has its partner, apart from those in quoted texts and in pattern literals. Over
such a text the walk comes back to code at the depth at which it set out, so the first closing brace
behind it belongs to the one before it.
-/
namespace StreamLinks.Script

def isQuote (c : Char) : Bool := "\"'\x60".toList.contains c

-- The character opens no literal and is no brace.
def isPlain (c : Char) : Bool := !"\"'\x60/\x7b\x7d".toList.contains c

-- The nearest character to the left that is not blank, once `c` stands there too.
def nearest (before c : Char) : Char := if isAsciiBlank c then before else c

-- What stands between two quotes: a backslash takes the next character with it.
inductive QuotedText (quote : Char) : Text → Prop where
  | empty : QuotedText quote []
  | plain (other : c ≠ quote) (unescaped : c ≠ '\\') (rest : QuotedText quote text) :
      QuotedText quote (c :: text)
  | escape (c : Char) (rest : QuotedText quote text) : QuotedText quote ('\\' :: c :: text)

-- What stands in a class of a pattern literal, up to its closing bracket.
inductive ClassText : Text → Prop where
  | empty : ClassText []
  | plain (inside : c ∉ "]\\\n".toList) (rest : ClassText text) : ClassText (c :: text)
  | escape (sameLine : c ≠ '\n') (rest : ClassText text) : ClassText ('\\' :: c :: text)

-- What stands between the slashes of a pattern literal. In a class a slash is a character like others.
inductive LiteralText : Text → Prop where
  | empty : LiteralText []
  | plain (inside : c ∉ "/[\\\n".toList) (rest : LiteralText text) : LiteralText (c :: text)
  | escape (sameLine : c ≠ '\n') (rest : LiteralText text) : LiteralText ('\\' :: c :: text)
  | cls (members : ClassText inside) (rest : LiteralText text) :
      LiteralText ('[' :: (inside ++ ']' :: text))

-- A body behind `before`, the nearest character to its left that is not blank. Whether a slash opens a
-- pattern literal or divides is told by what stands before it.
inductive Body : (before : Char) → Text → Prop where
  | empty : Body before []
  | plain (opensNothing : isPlain c = true) (rest : Body (nearest before c) text) :
      Body before (c :: text)
  | quoted (mark : isQuote quote = true) (inside : QuotedText quote words) (rest : Body quote text) :
      Body before (quote :: (words ++ quote :: text))
  | literal (opens : opensLiteral before = true) (inside : LiteralText words) (rest : Body '/' text) :
      Body before ('/' :: (words ++ '/' :: text))
  | divide (divides : opensLiteral before = false) (rest : Body '/' text) : Body before ('/' :: text)
  | braces (inside : Body '{' block) (rest : Body '}' text) :
      Body before ('{' :: (block ++ '}' :: text))

theorem Body.run {before : Char} {text rest : Text} (plain : text.all isPlain = true)
    (behind : Body (text.foldl nearest before) rest) : Body before (text ++ rest) := by
  induction text generalizing before with
  | nil => exact behind
  | cons c text ih =>
    obtain ⟨first, others⟩ := Bool.and_eq_true_iff.mp plain
    exact .plain first (ih others behind)

theorem isQuote_cases {c : Char} (mark : isQuote c = true) : c = '"' ∨ c = '\'' ∨ c = '\x60' := by
  simpa [isQuote] using mark

def seenBehind (before : Option Char) (c : Char) : Option Char := if isAsciiBlank c then before else some c

-- The walk lists the character: it stands outside literals and opens none.
def isListed (region : Region) (before : Option Char) (c : Char) : Bool :=
  region == .code && !isQuote c && !(c == '/' && before.all opensLiteral)

def regionBehind (region : Region) (before : Option Char) (c : Char) (rest : Text) : Region :=
  match region with
  | .quoted quote => if c = '\\' then .escaped quote else if c = quote then .code else .quoted quote
  | .escaped quote => .quoted quote
  | .literal (left + 1) => .literal left
  | .literal 0 => .code
  | .code =>
    if isQuote c then .quoted c
    else if c = '/' ∧ before.all opensLiteral then
      match literalLength? false rest with
      | some (length + 1) => .literal length
      | _ => .code
    else .code

-- One step of the walk.
theorem codeFrom_cons (region : Region) (before : Option Char) (offset : Nat) (c : Char) (rest : Text) :
    codeFrom region before offset (c :: rest) = (if isListed region before c then [(offset, c)] else []) ++
      codeFrom (regionBehind region before c rest) (seenBehind before c) (offset + 1) rest := by
  cases region with
  | quoted quote => rfl
  | escaped quote => rfl
  | literal left => cases left <;> rfl
  | code =>
    have quotes : isQuote c = true ↔ c = '"' ∨ c = '\'' ∨ c = '\x60' := by simp [isQuote]
    simp only [codeFrom, ← quotes, isListed, regionBehind, seenBehind]
    by_cases mark : isQuote c = true
    · simp [mark]
    · by_cases slash : c = '/' ∧ before.all opensLiteral = true
      · obtain ⟨rfl, opens⟩ := slash
        cases closes : literalLength? false rest with
        | none => simp [opens, mark]
        | some size => cases size <;> simp [opens, mark]
      · have other : (c == '/' && before.all opensLiteral) = false := by simpa using slash
        simp [mark, other, slash]

theorem codeFrom_hidden {region : Region} {before : Option Char} {c : Char}
    (hidden : isListed region before c = false) (offset : Nat) (rest : Text) :
    codeFrom region before offset (c :: rest) =
      codeFrom (regionBehind region before c rest) (seenBehind before c) (offset + 1) rest := by
  rw [codeFrom_cons, hidden]
  rfl

theorem codeFrom_quoted {quote : Char} {words : Text} (mark : isQuote quote = true)
    (inside : QuotedText quote words) (before : Option Char) (offset : Nat) (rest : Text) :
    codeFrom (.quoted quote) before offset (words ++ quote :: rest) =
      codeFrom .code (some quote) (offset + words.length + 1) rest := by
  induction inside generalizing before offset with
  | empty =>
    have visible : isAsciiBlank quote = false := by
      rcases isQuote_cases mark with rfl | rfl | rfl <;> rfl
    have unescaped : quote ≠ '\\' := by
      rintro rfl
      cases mark
    rw [List.nil_append, codeFrom_hidden rfl]
    simp [regionBehind, seenBehind, visible, unescaped]
  | plain other unescaped rest ih =>
    rw [List.cons_append, codeFrom_hidden rfl, regionBehind, if_neg unescaped, if_neg other, ih,
      List.length_cons]
    congr 1
    omega
  | escape c rest ih =>
    rw [List.cons_append, List.cons_append, codeFrom_hidden rfl, regionBehind, if_pos rfl,
      codeFrom_hidden rfl, regionBehind, ih, List.length_cons, List.length_cons]
    congr 1
    omega

-- A backslash takes the next character with it, inside a class and outside.
theorem literalLength?_escape (inClass : Bool) (c : Char) (rest : Text) :
    literalLength? inClass ('\\' :: c :: rest) = (literalLength? inClass rest).map (· + 2) := rfl

theorem literalLength?_next {c : Char} (unescaped : c ≠ '\\') (sameLine : c ≠ '\n') {inClass : Bool}
    (stays : c = '/' → inClass = true) (rest : Text) :
    literalLength? inClass (c :: rest) =
      (literalLength? (if c = '[' then true else if c = ']' then false else inClass) rest).map
        (· + 1) := by
  have goesOn : ¬ (c = '/' ∧ (!inClass) = true) := by
    rintro ⟨slash, outside⟩
    rw [stays slash] at outside
    cases outside
  rw [literalLength?, if_neg sameLine, if_neg goesOn]
  · intro escaped
    exact absurd escaped unescaped
  · intro d tail escaped
    exact absurd escaped unescaped

theorem literalLength?_class {members : Text} (inside : ClassText members) (rest : Text) :
    literalLength? true (members ++ ']' :: rest) =
      (literalLength? false rest).map (· + (members.length + 1)) := by
  induction inside with
  | empty => simp [literalLength?_next]
  | @plain c text inside _ ih =>
    obtain ⟨closing, unescaped, sameLine⟩ : c ≠ ']' ∧ c ≠ '\\' ∧ c ≠ '\n' := by simpa using inside
    rw [List.cons_append, literalLength?_next unescaped sameLine fun _ => rfl, if_neg closing, ite_self,
      ih, Option.map_map]
    rfl
  | @escape c text _ _ ih =>
    rw [List.cons_append, List.cons_append, literalLength?_escape, ih, Option.map_map]
    rfl

-- The closing slash is the first one outside classes.
theorem literalLength?_literal {words : Text} (inside : LiteralText words) (rest : Text) :
    literalLength? false (words ++ '/' :: rest) = some (words.length + 1) := by
  induction inside with
  | empty => rfl
  | @plain c text inside _ ih =>
    obtain ⟨slash, opening, unescaped, sameLine⟩ : c ≠ '/' ∧ c ≠ '[' ∧ c ≠ '\\' ∧ c ≠ '\n' := by
      simpa using inside
    rw [List.cons_append, literalLength?_next unescaped sameLine fun same => absurd same slash,
      if_neg opening, ite_self, ih]
    rfl
  | @escape c text _ _ ih =>
    rw [List.cons_append, List.cons_append, literalLength?_escape, ih]
    rfl
  | @cls members text inside _ ih =>
    have whole : '[' :: (members ++ ']' :: text) ++ '/' :: rest =
        '[' :: (members ++ ']' :: (text ++ '/' :: rest)) := by simp
    rw [whole, literalLength?_next (by decide) (by decide) (by decide), if_pos rfl,
      literalLength?_class inside, ih]
    simp only [Option.map_some, List.length_cons, List.length_append]
    congr 1
    omega

theorem codeFrom_literal (words : Text) (before : Option Char) (offset : Nat) (rest : Text) :
    codeFrom (.literal words.length) before offset (words ++ '/' :: rest) =
      codeFrom .code (some '/') (offset + words.length + 1) rest := by
  induction words generalizing before offset with
  | nil => rfl
  | cons c words ih =>
    rw [List.cons_append, List.length_cons, codeFrom_hidden rfl, regionBehind, ih]
    congr 1
    omega

-- Code goes on behind a character that begins no literal.
theorem codeFrom_next {before c : Char} (unquoted : isQuote c = false)
    (divides : c ≠ '/' ∨ opensLiteral before = false) (offset : Nat) (rest : Text) :
    codeFrom .code (some before) offset (c :: rest) =
      (offset, c) :: codeFrom .code (some (nearest before c)) (offset + 1) rest := by
  have lists : isListed .code (some before) c = true := by
    simpa [isListed, unquoted] using divides
  have code : regionBehind .code (some before) c rest = .code := by
    rcases divides with other | divides
    · simp [regionBehind, unquoted, other]
    · simp [regionBehind, unquoted, divides]
  have seen : seenBehind (some before) c = some (nearest before c) := by
    unfold seenBehind nearest
    split <;> rfl
  rw [codeFrom_cons, lists, code, seen]
  rfl

theorem isPlain_cases {c : Char} (plain : isPlain c = true) :
    isQuote c = false ∧ c ≠ '/' ∧ c ≠ '{' ∧ c ≠ '}' := by
  refine ⟨?_, ?_, ?_, ?_⟩
  · rw [Bool.eq_false_iff]
    intro mark
    rcases isQuote_cases mark with rfl | rfl | rfl <;> cases plain
  all_goals
    intro same
    subst same
    cases plain

theorem codeFrom_quote {quote : Char} (mark : isQuote quote = true) (before : Option Char)
    (offset : Nat) (rest : Text) :
    codeFrom .code before offset (quote :: rest) =
      codeFrom (.quoted quote) (some quote) (offset + 1) rest := by
  rcases isQuote_cases mark with rfl | rfl | rfl <;> rfl

theorem codeFrom_slash {before : Char} (opens : opensLiteral before = true) {words : Text}
    (inside : LiteralText words) (offset : Nat) (rest : Text) :
    codeFrom .code (some before) offset ('/' :: (words ++ '/' :: rest)) =
      codeFrom .code (some '/') (offset + 1 + words.length + 1) rest := by
  have hidden : isListed .code (some before) '/' = false := by simp [isListed, opens]
  have literal : regionBehind .code (some before) '/' (words ++ '/' :: rest) = .literal words.length := by
    simp [regionBehind, isQuote, opens, literalLength?_literal inside]
  rw [codeFrom_hidden hidden, literal]
  exact codeFrom_literal words ..

-- A body leaves the depth as it was.
theorem closingBrace_body {before : Char} {text : Text} (body : Body before text) (depth offset : Nat)
    (rest : Text) :
    ∃ seen, closingBrace (depth + 1) (codeFrom .code (some before) offset (text ++ rest)) =
      closingBrace (depth + 1) (codeFrom .code (some seen) (offset + text.length) rest) := by
  induction body generalizing depth offset rest with
  | @empty before => exact ⟨before, rfl⟩
  | @plain c before text opensNothing _ ih =>
    obtain ⟨unquoted, slash, opening, closing⟩ := isPlain_cases opensNothing
    obtain ⟨seen, same⟩ := ih depth (offset + 1) rest
    have place : offset + 1 + text.length = offset + (c :: text).length := by
      rw [List.length_cons]
      omega
    refine ⟨seen, ?_⟩
    rw [List.cons_append, codeFrom_next unquoted (.inl slash), closingBrace,
      if_neg opening, if_neg closing, same, place]
  | @quoted quote words text before mark inside _ ih =>
    obtain ⟨seen, same⟩ := ih depth (offset + 1 + words.length + 1) rest
    have place : offset + 1 + words.length + 1 + text.length =
        offset + (quote :: (words ++ quote :: text)).length := by
      simp only [List.length_cons, List.length_append]
      omega
    refine ⟨seen, ?_⟩
    rw [List.cons_append, List.append_assoc, List.cons_append, codeFrom_quote mark,
      codeFrom_quoted mark inside, same, place]
  | @literal before words text opens inside _ ih =>
    obtain ⟨seen, same⟩ := ih depth (offset + 1 + words.length + 1) rest
    have place : offset + 1 + words.length + 1 + text.length =
        offset + ('/' :: (words ++ '/' :: text)).length := by
      simp only [List.length_cons, List.length_append]
      omega
    refine ⟨seen, ?_⟩
    rw [List.cons_append, List.append_assoc, List.cons_append, codeFrom_slash opens inside, same, place]
  | @divide before text divides _ ih =>
    obtain ⟨seen, same⟩ := ih depth (offset + 1) rest
    have place : offset + 1 + text.length = offset + ('/' :: text).length := by
      rw [List.length_cons]
      omega
    refine ⟨seen, ?_⟩
    rw [List.cons_append, codeFrom_next rfl (.inr divides), closingBrace, if_neg (by decide),
      if_neg (by decide), ← place]
    exact same
  | @braces block text before _ _ inside ih =>
    -- The block is walked over one level deeper, and its closing brace comes back.
    obtain ⟨last, deeper⟩ := inside (depth + 1) (offset + 1) ('}' :: (text ++ rest))
    obtain ⟨seen, same⟩ := ih depth (offset + 1 + block.length + 1) rest
    have place : offset + 1 + block.length + 1 + text.length =
        offset + ('{' :: (block ++ '}' :: text)).length := by
      simp only [List.length_cons, List.length_append]
      omega
    have opened : closingBrace (depth + 1) (codeFrom .code (some before) offset
        ('{' :: (block ++ '}' :: (text ++ rest)))) =
        closingBrace (depth + 2) (codeFrom .code (some '{') (offset + 1)
          (block ++ '}' :: (text ++ rest))) := by
      rw [codeFrom_next rfl (.inl (by decide)), closingBrace, if_pos rfl]
      rfl
    have closed : closingBrace (depth + 2) (codeFrom .code (some last) (offset + 1 + block.length)
        ('}' :: (text ++ rest))) =
        closingBrace (depth + 1) (codeFrom .code (some '}') (offset + 1 + block.length + 1)
          (text ++ rest)) := by
      rw [codeFrom_next rfl (.inl (by decide)), closingBrace, if_neg (by decide), if_pos rfl,
        if_neg (by omega)]
      rfl
    refine ⟨seen, ?_⟩
    rw [List.cons_append, List.append_assoc, List.cons_append, opened, deeper, closed, same, place]

theorem matchingBrace_body {text : Text} (body : Body '{' text) (rest : Text) :
    matchingBrace ('{' :: (text ++ '}' :: rest)) = some (text.length + 1) := by
  have opened : matchingBrace ('{' :: (text ++ '}' :: rest)) =
      closingBrace 1 (codeFrom .code (some '{') 1 (text ++ '}' :: rest)) := by
    simp [matchingBrace, code, codeFrom, closingBrace, isAsciiBlank]
  obtain ⟨seen, same⟩ := closingBrace_body body 0 1 ('}' :: rest)
  rw [opened, same, codeFrom_next rfl (.inl (by decide)), closingBrace, if_neg (by decide), if_pos rfl,
    if_pos (by omega), Nat.add_comm]

end StreamLinks.Script
