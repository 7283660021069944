import StreamLinks.Proofs.Script.ByteWalk
/-!
The walk over bytes and that over characters.

Both go through the same regions of a text and stop at the same character. Where the walk over characters is behind a
backslash, that over bytes has already passed the first byte of the next character, and where it is inside a pattern
literal, that over bytes has left it. So an index that is found is a place between characters.
-/
namespace StreamLinks.Bytewise
open Text Script

section simulation
variable {visit : Nat → Char → Option Nat} {region : Region} {before : Option Char} {front : Text} {c mark : Char}

-- The quote that the walk waits for.
def quoteOf : Region → Option Char
  | .code => none
  | .quoted mark => some mark
  | .escaped mark => some mark
  | .literal _ => none

-- The index from which a walk over bytes goes on, where that over characters stands before the rest of a text. A
-- backslash takes one more byte with it, and a pattern literal is left behind at once.
def indexOf (region : Region) (front rest : Text) : Nat :=
  match region with
  | .code => byteLength front
  | .quoted _ => byteLength front
  | .escaped _ => byteLength front + 1
  | .literal left => byteLength (front ++ rest.take (left + 1))

theorem narrow_of_isQuote (quote : isQuote c = true) : isWide c = false := by
  rcases isQuote_cases quote with rfl | rfl | rfl <;> rfl

theorem isQuote_of_isWide (wide : isWide c = true) : isQuote c = false := outside_of_isWide narrow_of_isQuote wide

theorem skips_walk_quoted (visit : Nat → Char → Option Nat) (bytes : List UInt8) (narrow : isWide mark = false)
    (depth : Nat) : Skips (walk visit bytes (some mark) depth) bytes := by
  rintro before b behind rfl wide
  rw [walk_quoted, if_neg (ne_of_class wide _ rfl), if_neg (ne_of_class wide _ narrow)]

-- The visitor takes no notice of wide characters.
def Ignores (visit : Nat → Char → Option Nat) : Prop := ∀ depth c, isWide c = true → visit depth c = some depth

theorem skips_walk_code (ignores : Ignores visit) (bytes : List UInt8) (depth : Nat) :
    Skips (walk visit bytes none depth) bytes := by
  rintro before b behind rfl wide
  rw [walk_visit (isQuote_of_isWide wide) fun slash => ne_of_class wide _ rfl slash.1, ignores _ _ wide,
    Option.elim_some]

-- One step in each region. The walk over bytes goes on where that over characters does.
theorem walk_quoted_step (quote : isQuote mark = true) (front rest : Text) (c : Char) (depth : Nat) :
    walk visit (toBytes (front ++ c :: rest)) (some mark) depth (byteLength front) =
      walk visit (toBytes (front ++ c :: rest)) (quoteOf (regionBehind (.quoted mark) before c rest)) depth
        (indexOf (regionBehind (.quoted mark) before c rest) (front ++ [c]) rest) := by
  have narrowMark := narrow_of_isQuote quote
  rw [regionBehind]
  cases wide : isWide c with
  | true =>
    have skips := skips_walk_quoted visit (toBytes (front ++ c :: rest)) narrowMark depth
    rw [if_neg (ne_of_class wide _ rfl), if_neg (ne_of_class wide _ narrowMark), skips.over wide]
    rfl
  | false =>
    obtain ⟨b, same, split, next⟩ := exists_byte wide front rest
    rw [split, byteLength, walk_quoted, same, ← byteLength]
    by_cases escaped : c = '\\'
    · rw [if_pos escaped, if_pos escaped, indexOf, next, quoteOf]
    · rw [if_neg escaped, if_neg escaped]
      by_cases closing : c = mark
      · rw [if_pos closing, if_pos closing, indexOf, next, quoteOf]
      · rw [if_neg closing, if_neg closing, indexOf, next, quoteOf]

theorem walk_escaped_step (quote : isQuote mark = true) (front rest : Text) (c : Char) (depth : Nat) :
    walk visit (toBytes (front ++ c :: rest)) (some mark) depth (byteLength front + 1) =
      walk visit (toBytes (front ++ c :: rest)) (some mark) depth (byteLength (front ++ [c])) :=
  (skips_walk_quoted visit _ (narrow_of_isQuote quote) depth).remainder

theorem walk_slash_step (opens : (lastSeen front).all opensLiteral = true) (rest : Text) (depth : Nat) :
    walk visit (toBytes (front ++ '/' :: rest)) none depth (byteLength front) =
      walk visit (toBytes (front ++ '/' :: rest)) none depth
        (indexOf (regionBehind .code (lastSeen front) '/' rest) (front ++ ['/']) rest) := by
  obtain ⟨b, same, split, next⟩ := exists_byte (c := '/') rfl front rest
  have inside : opensAt (toBytes front ++ b :: toBytes rest) ⟨(toBytes front).length, length_lt _ _ b⟩ = true := by
    rw [opensAt_eq, opens]
  have ends := literalEnd?_eq (front ++ ['/']) rest false
  rw [← List.append_cons, split, next, byteLength] at ends
  rw [split, byteLength, walk_slash same inside, ends]
  have unquoted : isQuote '/' = false := rfl
  cases closes : literalLength? false rest with
  | none =>
    have stays : regionBehind .code (lastSeen front) '/' rest = .code := by simp [regionBehind, unquoted, opens, closes]
    rw [stays, indexOf, next]
    rfl
  | some size =>
    obtain ⟨words, _, -, rfl, -⟩ := (closes_iff.mp closes).split
    simp [regionBehind, unquoted, opens, closes, indexOf]

theorem walk_visit_step (ignores : Ignores visit) (unquoted : isQuote c = false)
    (divides : ¬ (c = '/' ∧ (lastSeen front).all opensLiteral = true)) (rest : Text) (depth : Nat) :
    walk visit (toBytes (front ++ c :: rest)) none depth (byteLength front) =
      (visit depth c).elim (some (byteLength front)) fun depth =>
        walk visit (toBytes (front ++ c :: rest)) none depth (byteLength (front ++ [c])) := by
  cases wide : isWide c with
  | true => rw [(skips_walk_code ignores _ depth).over wide, ignores depth c wide, Option.elim_some]
  | false =>
    obtain ⟨b, same, split, next⟩ := exists_byte wide front rest
    have other : ¬ (Char.ofUInt8 b = '/' ∧
        opensAt (toBytes front ++ b :: toBytes rest) ⟨(toBytes front).length, length_lt _ _ b⟩ = true) := by
      rw [same, opensAt_eq]
      exact divides
    rw [split, next, byteLength, walk_visit (by rw [same]; exact unquoted) other, same]

-- The regions in which a walk may be.
def Fits : Region → Prop
  | .quoted mark => isQuote mark = true
  | .escaped mark => isQuote mark = true
  | _ => True

theorem fits_regionBehind (fits : Fits region) (before : Option Char) (c : Char) (rest : Text) :
    Fits (regionBehind region before c rest) := by
  cases region with
  | quoted mark =>
    rw [regionBehind]
    split
    · exact fits
    · split
      · trivial
      · exact fits
  | escaped mark => exact fits
  | literal left => cases left <;> trivial
  | code =>
    rw [regionBehind]
    split
    · assumption
    · split
      · split <;> trivial
      · trivial

-- A character that is not listed is not shown to the visitor.
theorem walk_hidden (fits : Fits region) (hidden : isListed region (lastSeen front) c = false) (rest : Text)
    (depth : Nat) :
    walk visit (toBytes (front ++ c :: rest)) (quoteOf region) depth (indexOf region front (c :: rest)) =
      walk visit (toBytes (front ++ c :: rest)) (quoteOf (regionBehind region (lastSeen front) c rest)) depth
        (indexOf (regionBehind region (lastSeen front) c rest) (front ++ [c]) rest) := by
  cases region with
  | quoted mark => exact walk_quoted_step fits front rest c depth
  | escaped mark => exact walk_escaped_step fits front rest c depth
  | literal left =>
    have same : front ++ (c :: rest).take (left + 1) = (front ++ [c]) ++ rest.take left := by simp
    rw [indexOf, same]
    cases left with
    | zero => rw [List.take_zero, List.append_nil]; rfl
    | succ left => rfl
  | code =>
    cases quote : isQuote c with
    | true =>
      obtain ⟨b, same, split, next⟩ := exists_byte (narrow_of_isQuote quote) front rest
      rw [← same] at quote
      rw [regionBehind, ← same, if_pos quote, quoteOf, quoteOf, indexOf, indexOf, same, next, split, byteLength,
        walk_quote quote, same]
    | false =>
      obtain ⟨rfl, opens⟩ : c = '/' ∧ (lastSeen front).all opensLiteral = true := by
        simpa [isListed, quote] using hidden
      have noQuote : quoteOf (regionBehind .code (lastSeen front) '/' rest) = none := by
        rw [regionBehind, if_neg (by decide)]
        split
        · split <;> rfl
        · rfl
      rw [noQuote]
      exact walk_slash_step opens rest depth

-- A character that is listed is shown to the visitor.
theorem walk_listed (ignores : Ignores visit) (listed : isListed region (lastSeen front) c = true) (rest : Text)
    (depth : Nat) :
    walk visit (toBytes (front ++ c :: rest)) (quoteOf region) depth (indexOf region front (c :: rest)) =
      (visit depth c).elim (some (byteLength front)) fun depth =>
        walk visit (toBytes (front ++ c :: rest)) (quoteOf (regionBehind region (lastSeen front) c rest)) depth
          (indexOf (regionBehind region (lastSeen front) c rest) (front ++ [c]) rest) := by
  obtain ⟨⟨rfl, unquoted⟩, divides⟩ : (region = .code ∧ isQuote c = false) ∧
      ¬ (c = '/' ∧ (lastSeen front).all opensLiteral = true) := by
    simpa [isListed, Decidable.imp_iff_not_or] using listed
  have goesOn : regionBehind .code (lastSeen front) c rest = .code := by
    rw [regionBehind, if_neg (by rw [unquoted]; decide), if_neg divides]
  rw [goesOn]
  exact walk_visit_step ignores unquoted divides rest depth

-- The offset at which a visitor ends the walk over listed characters.
def search (visit : Nat → Char → Option Nat) (depth : Nat) : List (Nat × Char) → Option Nat
  | [] => none
  | (offset, c) :: places =>
    match visit depth c with
    | some depth => search visit depth places
    | none => some offset

-- Both walks end at the same character.
theorem walk_eq (ignores : Ignores visit) (fits : Fits region) (base passed rest : Text) (depth : Nat) :
    walk visit (toBytes (base ++ (passed ++ rest))) (quoteOf region) depth (indexOf region (base ++ passed) rest) =
      (search visit depth (codeFrom region (lastSeen (base ++ passed)) passed.length rest)).map fun found =>
        byteLength (base ++ (passed ++ rest).take found) := by
  induction rest generalizing region passed depth with
  | nil =>
    have atEnd : (toBytes (base ++ (passed ++ []))).length ≤ indexOf region (base ++ passed) [] := by
      rw [List.append_nil, ← byteLength]
      cases region with
      | escaped mark => exact Nat.le_succ _
      | literal left => simp [indexOf]
      | _ => exact Nat.le_refl _
    rw [walk_of_le atEnd]
    rfl
  | cons c rest ih =>
    have next : passed ++ c :: rest = (passed ++ [c]) ++ rest := List.append_cons passed c rest
    have seen : seenBehind (lastSeen (base ++ passed)) c = lastSeen (base ++ (passed ++ [c])) := by
      rw [← List.append_assoc, lastSeen_concat]
    have later := ih (fits_regionBehind fits (lastSeen (base ++ passed)) c rest) (passed ++ [c])
    rw [← seen, ← next, List.length_append, List.length_singleton] at later
    rw [codeFrom_cons]
    have whole : base ++ (passed ++ c :: rest) = (base ++ passed) ++ c :: rest := (List.append_assoc _ _ _).symm
    have behind : (base ++ passed) ++ [c] = base ++ (passed ++ [c]) := List.append_assoc _ _ _
    cases listed : isListed region (lastSeen (base ++ passed)) c with
    | false =>
      rw [whole, walk_hidden fits listed, ← whole, behind, later]
      rfl
    | true =>
      rw [whole, walk_listed ignores listed, ← whole, behind]
      simp only [if_true, List.singleton_append, search]
      cases visit depth c with
      | none => simp
      | some depth => exact later depth

-- What stands before the start does not matter where the text begins with a character that is neither blank nor a
-- slash.
theorem walk_start (ignores : Ignores visit) (visible : isAsciiBlank c = false) (noSlash : c ≠ '/') (base rest : Text) :
    walk visit (toBytes (base ++ c :: rest)) none 0 (byteLength base) =
      (search visit 0 (code (c :: rest))).map fun found => byteLength (base ++ (c :: rest).take found) := by
  have fits : Fits .code := trivial
  have run := walk_eq ignores fits base [] (c :: rest) 0
  have same : codeFrom .code (lastSeen base) 0 (c :: rest) = code (c :: rest) := by
    have other : (c == '/') = false := beq_eq_false_iff_ne.mpr noSlash
    simp [code, codeFrom_cons, isListed, regionBehind, seenBehind, visible, noSlash, other]
  rw [List.append_nil] at run
  rw [← same]
  exact run

end simulation

section ends
variable {c : Char}

theorem search_braces (depth : Nat) (places : List (Nat × Char)) :
    search braceVisitor depth places = closingBrace depth places := by
  fun_induction closingBrace depth places with
  | case1 => rfl
  | case2 depth offset rest ih => simpa [search, braceVisitor] using ih
  | case3 depth offset rest last => simp [search, braceVisitor, Nat.sub_eq_zero_of_le last]
  | case4 depth offset rest more _ ih =>
    have left : depth - 1 ≠ 0 := by omega
    simpa [search, braceVisitor, left] using ih
  | case5 depth offset c rest opening closing ih => simpa [search, braceVisitor, opening, closing] using ih

theorem search_semicolons (depth : Nat) (places : List (Nat × Char)) :
    search semicolonVisitor depth places = closingSemicolon depth places := by
  fun_induction closingSemicolon depth places with
  | case1 => rfl
  | case2 depth offset c rest opening ih => simpa [search, semicolonVisitor, opening] using ih
  | case3 depth offset c rest opening closing ih => simpa [search, semicolonVisitor, opening, closing] using ih
  | case4 depth offset c rest opening closing ends => simp [search, semicolonVisitor, ends]
  | case5 depth offset c rest opening closing goesOn ih =>
    simpa [search, semicolonVisitor, opening, closing, goesOn] using ih

theorem ignores_braces : Ignores braceVisitor := by
  intro depth c wide
  rw [braceVisitor, if_neg (ne_of_class wide _ rfl), if_neg (ne_of_class wide _ rfl)]

theorem ignores_semicolons : Ignores semicolonVisitor := by
  intro depth c wide
  have other (mark : Char) (narrow : isWide mark = false) : c ≠ mark := ne_of_class wide mark narrow
  rw [semicolonVisitor]
  simp [other '{' rfl, other '[' rfl, other '(' rfl, other '}' rfl, other ']' rfl, other ')' rfl, other ';' rfl]

-- The brace that is found is the one that is found from the opening brace on.
theorem matchingBrace_eq (base rest : Text) : matchingBrace (base ++ '{' :: rest) (byteLength base) =
    (Script.matchingBrace ('{' :: rest)).map fun found => byteLength (base ++ ('{' :: rest).take found) := by
  rw [matchingBrace, walk_start ignores_braces rfl (by decide), search_braces]
  rfl

-- So is the end of a statement.
theorem statementEnd_eq (visible : isAsciiBlank c = false) (noSlash : c ≠ '/') (base rest : Text) :
    statementEnd (base ++ c :: rest) (byteLength base) =
      (Script.statementEnd (c :: rest)).map fun found => byteLength (base ++ (c :: rest).take found) := by
  rw [statementEnd, walk_start ignores_semicolons visible noSlash, search_semicolons]
  rfl

end ends
end StreamLinks.Bytewise
