import StreamLinks.Text.Blank
/-!
Text as its characters in order: finding, splitting, replacing and trimming.

Every function here works on whole characters, so no cut can fall inside one. The main facts are
that a cut loses nothing (`cut_append`) and that joining undoes splitting (`join_splitOn`).
-/
namespace StreamLinks

/-- Scripts, tokens, addresses and documents are all handled as their characters in order. -/
abbrev Text := List Char

namespace Text

/-- What follows `mark` when the text begins with it. -/
def after? : (mark text : Text) → Option Text
  | [], text => some text
  | _ :: _, [] => none
  | m :: mark, c :: text => if m = c then after? mark text else none

/-- The text begins with `mark`. -/
def startsWith (mark text : Text) : Bool := (after? mark text).isSome

/-- The parts before and after the first occurrence of `mark`. -/
def cut (mark : Text) : Text → Option (Text × Text)
  | [] => if mark = [] then some ([], []) else none
  | c :: text =>
    match after? mark (c :: text) with
    | some rest => some ([], rest)
    | none => (cut mark text).map fun (head, rest) => (c :: head, rest)

/-- `mark` occurs in the text. -/
def contains (mark text : Text) : Bool := (cut mark text).isSome

/-- Puts a character in front of the first piece. -/
def consPiece (c : Char) : List Text → List Text
  | [] => [[c]]
  | piece :: pieces => (c :: piece) :: pieces

/-- Splits at every occurrence of `mark`, from left to right and without overlap. `skip` counts the
characters of the current occurrence that are still to be passed over. -/
def splitFrom (mark : Text) : (skip : Nat) → Text → List Text
  | _, [] => [[]]
  | skip + 1, _ :: text => splitFrom mark skip text
  | 0, c :: text =>
    if startsWith mark (c :: text) then [] :: splitFrom mark (mark.length - 1) text
    else consPiece c (splitFrom mark 0 text)

/-- The pieces between the occurrences of a non-empty `mark`. -/
def splitOn (mark text : Text) : List Text := splitFrom mark 0 text

/-- The pieces between the occurrences of one character. -/
def splitAtChar (sep : Char) : Text → List Text
  | [] => [[]]
  | c :: text => if c = sep then [] :: splitAtChar sep text else consPiece c (splitAtChar sep text)

/-- The pieces with `mark` between neighbours. -/
def join (mark : Text) : List Text → Text
  | [] => []
  | [piece] => piece
  | piece :: next :: pieces => piece ++ mark ++ join mark (next :: pieces)

/-- Every occurrence of a non-empty `old`, from left to right and without overlap, becomes `new`. -/
def replaceAll (old new text : Text) : Text := join new (splitOn old text)

/-- Without the leading blanks. -/
def trimStart (text : Text) : Text := text.dropWhile isBlank

/-- Without the trailing blanks. -/
def trimEnd (text : Text) : Text := (text.reverse.dropWhile isBlank).reverse

/-- Without the blanks at both ends. -/
def trim (text : Text) : Text := trimEnd (trimStart text)

/-- The last line that is not blank, trimmed; empty when there is none. -/
def lastLine (text : Text) : Text :=
  (((splitAtChar '\n' text).map trim).filter fun line => !line.isEmpty).getLast?.getD []

/-- Equality up to the case of ASCII letters. -/
def sameIgnoringCase (a b : Text) : Bool := a.map Char.toLower == b.map Char.toLower

/-- Every ASCII capital letter becomes the small one. -/
def lower (text : Text) : Text := text.map Char.toLower

theorem after?_append (mark text : Text) : after? mark (mark ++ text) = some text := by
  induction mark with
  | nil => rfl
  | cons m mark ih => simp [after?, ih]

theorem eq_append_of_after? {mark text rest : Text} (h : after? mark text = some rest) :
    text = mark ++ rest := by
  induction mark generalizing text with
  | nil => simpa [after?] using h
  | cons m mark ih =>
    cases text with
    | nil => simp [after?] at h
    | cons c text =>
      simp only [after?] at h
      split at h
      · next same => simp [ih h, same]
      · cases h

/-- A cut loses nothing: the parts with the mark between them are the text. -/
theorem cut_append {mark text head rest : Text} (h : cut mark text = some (head, rest)) :
    text = head ++ mark ++ rest := by
  induction text generalizing head with
  | nil =>
    simp only [cut] at h
    split at h
    · next empty => simp_all
    · cases h
  | cons c text ih =>
    simp only [cut] at h
    split at h
    · next found =>
      obtain ⟨rfl, rfl⟩ := by simpa using h
      simpa using eq_append_of_after? found
    · obtain ⟨⟨front, back⟩, found, same⟩ := Option.map_eq_some_iff.mp h
      obtain ⟨rfl, rfl⟩ := by simpa using same
      simp [ih found]

theorem splitFrom_ne_nil (mark : Text) (skip : Nat) (text : Text) :
    splitFrom mark skip text ≠ [] := by
  induction text generalizing skip with
  | nil => simp [splitFrom]
  | cons c text ih =>
    cases skip with
    | succ skip => simpa [splitFrom] using ih skip
    | zero =>
      simp only [splitFrom]
      split
      · simp
      · cases splitFrom mark 0 text <;> simp [consPiece]

theorem join_cons (mark piece : Text) {pieces : List Text} (h : pieces ≠ []) :
    join mark (piece :: pieces) = piece ++ mark ++ join mark pieces := by
  cases pieces with
  | nil => exact absurd rfl h
  | cons next pieces => rfl

theorem join_consPiece (mark : Text) (c : Char) {pieces : List Text} (h : pieces ≠ []) :
    join mark (consPiece c pieces) = c :: join mark pieces := by
  cases pieces with
  | nil => exact absurd rfl h
  | cons piece pieces =>
    cases pieces with
    | nil => rfl
    | cons next pieces => rfl

theorem join_splitFrom {mark : Text} (filled : mark ≠ []) (skip : Nat) (text : Text) :
    join mark (splitFrom mark skip text) = text.drop skip := by
  induction text generalizing skip with
  | nil => simp [splitFrom, join]
  | cons c text ih =>
    cases skip with
    | succ skip => simpa [splitFrom] using ih skip
    | zero =>
      simp only [splitFrom]
      split
      · next found =>
        -- The mark stands here, so the rest of it is what is passed over.
        obtain ⟨rest, found⟩ := Option.isSome_iff_exists.mp found
        rw [join_cons mark [] (splitFrom_ne_nil mark _ text), ih]
        have whole := eq_append_of_after? found
        cases mark with
        | nil => exact absurd rfl filled
        | cons m mark =>
          obtain ⟨rfl, rfl⟩ := List.cons.inj whole
          simp
      · rw [join_consPiece mark c (splitFrom_ne_nil mark _ text), ih]
        simp

/-- Joining undoes splitting. -/
theorem join_splitOn {mark : Text} (filled : mark ≠ []) (text : Text) :
    join mark (splitOn mark text) = text := by
  simpa [splitOn] using join_splitFrom filled 0 text

end Text
end StreamLinks
