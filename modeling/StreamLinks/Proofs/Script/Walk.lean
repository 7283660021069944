import StreamLinks.Proofs.Script.Braces
import StreamLinks.Proofs.Script.Pairing
/-!
The walk over code, character by character and over a part of a text.

Only a slash makes the walk look ahead, for the slash that closes a literal. Where a character stands outside
literals, all literals before it are closed before it. So up to there the walk goes the same in any other text
that begins alike, if what follows there holds no slash.
-/
namespace StreamLinks.Script

-- A text behind the opening slash of a pattern literal, with the number of characters up to the closing slash.
inductive Closes : (inClass : Bool) → Text → (size : Nat) → Prop where
  | slash : Closes false ('/' :: rest) 1
  | escape (c : Char) (later : Closes inClass rest size) : Closes inClass ('\\' :: c :: rest) (size + 2)
  | next (unescaped : c ≠ '\\') (sameLine : c ≠ '\n') (inside : c = '/' → inClass = true)
      (later : Closes (if c = '[' then true else if c = ']' then false else inClass) rest size) :
      Closes inClass (c :: rest) (size + 1)

section literals
variable {inClass : Bool} {text front back tail : Text} {c : Char} {size : Nat}

theorem closes_iff : literalLength? inClass text = some size ↔ Closes inClass text size := by
  constructor
  · intro closes
    fun_induction literalLength? inClass text generalizing size with
    | case1 => cases closes
    | case2 => cases closes
    | case3 inClass c rest ih =>
      obtain ⟨before, later, rfl⟩ := Option.map_eq_some_iff.mp closes
      exact .escape c (ih later)
    | case4 => cases closes
    | case5 inClass c rest _ _ _ ends =>
      cases closes
      obtain ⟨rfl, outside⟩ := ends
      obtain rfl : inClass = false := by simpa using outside
      exact .slash
    | case6 inClass c rest alone escapes sameLine goesOn stays =>
      rename_i ih
      obtain ⟨before, later, rfl⟩ := Option.map_eq_some_iff.mp closes
      have unescaped : c ≠ '\\' := by
        rintro rfl
        cases rest with
        | nil => exact alone rfl rfl
        | cons d rest => exact escapes d rest rfl rfl
      exact .next unescaped sameLine (by simpa using goesOn) (ih later)
  · intro closes
    induction closes with
    | slash => rfl
    | escape c _ ih => rw [literalLength?_escape, ih]; rfl
    | next unescaped sameLine inside _ ih => rw [literalLength?_next unescaped sameLine inside, ih]; rfl

-- The closing slash closes the literal whatever follows it.
theorem Closes.split (closes : Closes inClass text size) : ∃ words rest, text = words ++ '/' :: rest ∧
    size = words.length + 1 ∧ ∀ other, Closes inClass (words ++ '/' :: other) size := by
  induction closes with
  | @slash rest => exact ⟨[], rest, rfl, rfl, fun _ => .slash⟩
  | escape c _ ih =>
    obtain ⟨words, rest, rfl, rfl, same⟩ := ih
    exact ⟨'\\' :: c :: words, rest, rfl, rfl, fun other => .escape c (same other)⟩
  | @next c _ _ _ unescaped sameLine inside _ ih =>
    obtain ⟨words, rest, rfl, rfl, same⟩ := ih
    exact ⟨c :: words, rest, rfl, rfl, fun other => .next unescaped sameLine inside (same other)⟩

-- A literal that closes in the front of a text closes there whatever stands behind the front.
theorem Closes.replace (closes : Closes inClass (front ++ back) size) (within : size ≤ front.length)
    (other : Text) : Closes inClass (front ++ other) size := by
  obtain ⟨words, rest, split, rfl, same⟩ := closes.split
  obtain ⟨between, rfl⟩ : ∃ between, front = words ++ '/' :: between := by
    rcases List.append_eq_append_iff.mp split with ⟨between, rfl, -⟩ | ⟨between, rfl, others⟩
    · rw [List.length_append] at within
      omega
    · cases between with
      | nil =>
        rw [List.append_nil] at within
        exact absurd within (Nat.not_succ_le_self _)
      | cons first between => exact ⟨between, by rw [(List.cons.inj others).1]⟩
  rw [List.append_assoc]
  exact same _

-- Without a slash behind the front the literal closes in the front.
theorem Closes.within (closes : Closes inClass (front ++ back) size) (noSlash : '/' ∉ back) :
    size ≤ front.length := by
  obtain ⟨words, rest, split, rfl, -⟩ := closes.split
  rcases List.append_eq_append_iff.mp split with ⟨between, rfl, rfl⟩ | ⟨between, rfl, others⟩
  · exact absurd (List.mem_append_right between List.mem_cons_self) noSlash
  · cases between with
    | nil =>
      obtain rfl : '/' :: rest = back := others
      exact absurd List.mem_cons_self noSlash
    | cons first between =>
      rw [List.length_append, List.length_cons]
      omega

theorem literalLength?_cut (within : ∀ n, literalLength? inClass (front ++ c :: back) = some n → n ≤ front.length)
    (noSlash : '/' ∉ tail) :
    literalLength? inClass (front ++ c :: tail) = literalLength? inClass (front ++ c :: back) := by
  refine Option.ext fun n => ?_
  constructor
  · intro closes
    rw [closes_iff, List.append_cons] at closes
    have shorter := closes.replace (closes.within noSlash) back
    rwa [← List.append_cons, ← closes_iff] at shorter
  · intro closes
    exact closes_iff.mpr ((closes_iff.mp closes).replace (within n closes) _)

end literals

section walks
variable {region : Region} {before seen : Option Char} {offset : Nat} {c : Char} {front back tail text : Text}
  {listed others : List (Nat × Char)}

theorem le_of_mem_literal {left : Nat} {place : Nat × Char}
    (present : place ∈ codeFrom (.literal left) before offset text) : offset + left < place.1 := by
  induction text generalizing left before offset with
  | nil => cases present
  | cons c rest ih =>
    cases left with
    | succ left =>
      have later := ih present
      omega
    | zero =>
      have behind : place ∈ codeFrom .code _ (offset + 1) rest := present
      obtain ⟨_, -, -, same⟩ := split_of_mem_codeFrom behind
      omega

theorem regionBehind_cut {d : Char} (present : (offset + front.length, c) ∈
      codeFrom (regionBehind region before d (front ++ c :: back)) seen offset (front ++ c :: back))
    (noSlash : '/' ∉ tail) :
    regionBehind region before d (front ++ c :: tail) = regionBehind region before d (front ++ c :: back) := by
  cases region with
  | quoted quote => rfl
  | escaped quote => rfl
  | literal left => cases left <;> rfl
  | code =>
    by_cases slash : d = '/' ∧ before.all opensLiteral
    · have same : literalLength? false (front ++ c :: tail) = literalLength? false (front ++ c :: back) := by
        refine literalLength?_cut (fun n closes => ?_) noSlash
        obtain ⟨words, _, -, rfl, -⟩ := (closes_iff.mp closes).split
        obtain ⟨rfl, opens⟩ := slash
        simp only [regionBehind, opens, closes] at present
        have behind := le_of_mem_literal present
        omega
      simp only [regionBehind, same]
    · simp only [regionBehind, if_neg slash]

-- Where the first character is listed itself, no literal is open and nothing is listed before it.
theorem listed_here (present : codeFrom region before offset (c :: text) = listed ++ (offset, c) :: others) :
    region = .code ∧ listed = [] := by
  have later {place : Nat × Char} (inside : place ∈ codeFrom (regionBehind region before c text)
      (seenBehind before c) (offset + 1) text) : place.1 ≠ offset := by
    obtain ⟨_, -, -, same⟩ := split_of_mem_codeFrom inside
    omega
  rw [codeFrom_cons] at present
  split at present
  · next lists =>
    obtain rfl : region = .code := by
      cases region with
      | code => rfl
      | _ => cases lists
    cases listed with
    | nil => exact ⟨rfl, rfl⟩
    | cons first listed =>
      have behind : codeFrom (regionBehind .code before c text) (seenBehind before c) (offset + 1) text =
        listed ++ (offset, c) :: others := (List.cons.inj present).2
      exact absurd rfl (later (behind ▸ List.mem_append_right listed List.mem_cons_self))
  · exact absurd rfl (later (present ▸ List.mem_append_right listed List.mem_cons_self))

-- What is listed behind the first character is listed by the walk over the rest.
theorem listed_behind {place : Nat × Char} (later : place.1 ≠ offset)
    (present : codeFrom region before offset (c :: text) = listed ++ place :: others) :
    ∃ rest, listed = (if isListed region before c then [(offset, c)] else []) ++ rest ∧
      codeFrom (regionBehind region before c text) (seenBehind before c) (offset + 1) text =
        rest ++ place :: others := by
  rw [codeFrom_cons] at present
  split at present
  · next lists =>
    cases listed with
    | nil =>
      obtain ⟨rfl, -⟩ := List.cons.inj present
      exact absurd rfl later
    | cons first rest =>
      obtain ⟨rfl, inside⟩ := List.cons.inj present
      exact ⟨rest, by rw [if_pos lists, List.singleton_append], inside⟩
  · next hidden => exact ⟨listed, by rw [if_neg hidden, List.nil_append], present⟩

-- A character that is listed can be followed by another text, and what is listed before it stays.
theorem codeFrom_cut (present : codeFrom region before offset (front ++ c :: back) =
      listed ++ (offset + front.length, c) :: others) :
    ∃ seen, ∀ tail, tail = back ∨ '/' ∉ tail → codeFrom region before offset (front ++ c :: tail) =
      listed ++ codeFrom .code seen (offset + front.length) (c :: tail) := by
  induction front generalizing region before offset listed with
  | nil =>
    obtain ⟨rfl, rfl⟩ := listed_here present
    exact ⟨before, fun _ _ => rfl⟩
  | cons d front ih =>
    have place : offset + (d :: front).length = offset + 1 + front.length := by
      rw [List.length_cons, Nat.add_comm front.length, ← Nat.add_assoc]
    rw [place, List.cons_append] at present
    rw [place]
    have later : offset + 1 + front.length ≠ offset := by omega
    obtain ⟨rest, rfl, inside⟩ := listed_behind later present
    obtain ⟨seen, same⟩ := ih inside
    refine ⟨seen, ?_⟩
    intro tail suits
    have goesOn : regionBehind region before d (front ++ c :: tail) =
        regionBehind region before d (front ++ c :: back) := by
      rcases suits with rfl | noSlash
      · rfl
      · exact regionBehind_cut (inside ▸ List.mem_append_right rest List.mem_cons_self) noSlash
    rw [List.cons_append, codeFrom_cons, goesOn, same tail suits, List.append_assoc]

end walks

section rows
variable {before : Option Char} {c : Char} {front rest text : Text}

-- The characters that the walk lists.
def rowFrom (region : Region) (before : Option Char) (text : Text) : List Char :=
  (codeFrom region before 0 text).map (·.2)

def codeRow (text : Text) : List Char := rowFrom .code none text

theorem row_codeFrom (region : Region) (before : Option Char) (offset : Nat) (text : Text) :
    (codeFrom region before offset text).map (·.2) = rowFrom region before text := by
  have same (other : Nat) :
      (codeFrom region before offset text).map (·.2) = (codeFrom region before other text).map (·.2) := by
    induction text generalizing region before offset other with
    | nil => rfl
    | cons c rest ih =>
      rw [codeFrom_cons, codeFrom_cons, List.map_append, List.map_append, ih _ _ (offset + 1) (other + 1)]
      split <;> rfl
  exact same 0

theorem isListed_of_isPlain (plain : isPlain c = true) (before : Option Char) : isListed .code before c = true := by
  obtain ⟨unquoted, slash, -, -⟩ := isPlain_cases plain
  simp [isListed, unquoted, slash]

theorem rowFrom_listed (lists : isListed .code before c = true) :
    rowFrom .code before (c :: rest) = c :: rowFrom .code (seenBehind before c) rest := by
  have goesOn : regionBehind .code before c rest = .code := by
    obtain ⟨unquoted, slash⟩ : isQuote c = false ∧ ¬ (c = '/' ∧ before.all opensLiteral = true) := by
      simpa [isListed, Decidable.imp_iff_not_or] using lists
    simp only [regionBehind, unquoted, if_neg slash, Bool.false_eq_true, if_false]
  rw [rowFrom, codeFrom_cons, if_pos lists, goesOn, List.map_append, row_codeFrom]
  rfl

theorem rowFrom_plain (plain : ∀ c ∈ text, isPlain c = true) (before : Option Char) (rest : Text) :
    rowFrom .code before (text ++ rest) = text ++ rowFrom .code (text.foldl seenBehind before) rest := by
  induction text generalizing before with
  | nil => rfl
  | cons c text ih =>
    have here := plain c List.mem_cons_self
    rw [List.cons_append, rowFrom_listed (isListed_of_isPlain here before), List.foldl_cons,
      ih fun d present => plain d (List.mem_cons_of_mem c present)]
    rfl

-- The row of a text from one of its places on, where the place is outside literals.
theorem exists_codeRow (outside : (front.length, c) ∈ code (front ++ c :: rest)) :
    ∃ row seen, codeRow (front ++ c :: rest) = row ++ rowFrom .code seen (c :: rest) := by
  obtain ⟨listed, others, split⟩ := List.append_of_mem outside
  rw [← Nat.zero_add front.length] at split
  obtain ⟨seen, same⟩ := codeFrom_cut split
  refine ⟨listed.map (·.2), seen, ?_⟩
  rw [codeRow, rowFrom, same rest (.inl rfl), List.map_append, row_codeFrom]

end rows
end StreamLinks.Script
