import StreamLinks.Json.Printer
import StreamLinks.Json.Reader
/-!
Quoted texts: what is quoted is read back, and stands on one line.
-/
namespace StreamLinks

namespace Text

-- No character breaks the line, or controls anything else.
def OneLine (text : Text) : Prop := ∀ c ∈ text, 0x20 ≤ c.toNat

instance (text : Text) : Decidable text.OneLine :=
  List.decidableBAll (fun c : Char => 0x20 ≤ c.toNat) text

variable {c : Char} {front back text : Text}

theorem OneLine.nil : OneLine [] := by simp [OneLine]

theorem OneLine.append (first : OneLine front) (second : OneLine back) : OneLine (front ++ back) := by
  intro c present
  exact (List.mem_append.mp present).elim (first c) (second c)

theorem OneLine.cons (plain : 0x20 ≤ c.toNat) (rest : OneLine text) : OneLine (c :: text) :=
  List.forall_mem_cons.mpr ⟨plain, rest⟩

end Text

namespace Json

-- A character is escaped by a letter of its own or by its code, or it stands for itself.
theorem escape_cases (c : Char) :
    (∃ letter, escape c = ['\\', letter] ∧ plainEscape? letter = some c ∧ 0x20 ≤ letter.toNat) ∨
      (c.toNat < 0x20 ∧ escape c = ['\\', 'u', '0', '0', (Text.hexDigit (c.toNat / 16)).toLower,
        (Text.hexDigit (c.toNat % 16)).toLower]) ∨
      (escape c = [c] ∧ c ≠ '"' ∧ c ≠ '\\' ∧ 0x20 ≤ c.toNat) := by
  unfold escape
  repeat' split
  all_goals first
    | exact .inl ⟨_, rfl, by subst_vars; decide⟩
    | exact .inr (.inl ⟨‹_›, rfl⟩)
    | exact .inr (.inr ⟨rfl, ‹_›, ‹_›, Nat.le_of_not_lt ‹_›⟩)

theorem hex4?_code : ∀ code < 0x20,
    hex4? '0' '0' (Text.hexDigit (code / 16)).toLower (Text.hexDigit (code % 16)).toLower =
      some code := by decide

theorem lose_none (read : QuotedRead) : QuotedRead.lose none read = read := rfl

theorem stringFrom_letter {letter c : Char} (stands : plainEscape? letter = some c) (rest : Text) :
    stringFrom none ('\\' :: letter :: rest) = QuotedRead.push c (stringFrom none rest) := by
  have different : letter ≠ 'u' := by
    rintro rfl
    cases stands
  rw [stringFrom.eq_def]
  simp [stands, different, lose_none]

-- A code below the blank is none of the halves of a pair.
theorem stringFrom_code {code : Nat} (control : code < 0x20) (rest : Text) :
    stringFrom none ('\\' :: 'u' :: '0' :: '0' :: (Text.hexDigit (code / 16)).toLower ::
        (Text.hexDigit (code % 16)).toLower :: rest) =
      QuotedRead.push (Char.ofNat code) (stringFrom none rest) := by
  have noHigh : ¬ (0xD800 ≤ code ∧ code < 0xDC00) := by omega
  have noLow : ¬ (0xDC00 ≤ code ∧ code < 0xE000) := by omega
  simp only [stringFrom, hex4?_code code control, if_neg noHigh, if_neg noLow, lose_none]

theorem stringFrom_escape (c : Char) (rest : Text) :
    stringFrom none (escape c ++ rest) = QuotedRead.push c (stringFrom none rest) := by
  rcases escape_cases c with ⟨letter, same, stands, -⟩ | ⟨control, same⟩ | ⟨same, quote, slash, plain⟩
  · rw [same]
    exact stringFrom_letter stands rest
  · have read := stringFrom_code control rest
    rw [Char.ofNat_toNat] at read
    rw [same]
    exact read
  · rw [same, List.singleton_append, stringFrom.eq_def]
    simp [slash, Nat.not_lt.mpr plain, lose_none]

theorem stringFrom_escaped (text rest : Text) :
    stringFrom none (text.flatMap escape ++ '"' :: rest) = some (some text, rest) := by
  induction text with
  | nil => simp [stringFrom, lose_none]
  | cons c text ih =>
    rw [List.flatMap_cons, List.append_assoc, stringFrom_escape, ih]
    rfl

theorem oneLine_escape (c : Char) : Text.OneLine (escape c) := by
  have digits : ∀ code < 0x20, 0x20 ≤ (Text.hexDigit (code / 16)).toLower.toNat ∧
    0x20 ≤ (Text.hexDigit (code % 16)).toLower.toNat := by decide
  rcases escape_cases c with ⟨letter, same, -, plain⟩ | ⟨control, same⟩ | ⟨same, -, -, plain⟩
  · rw [same]
    exact .cons (by decide) (.cons plain .nil)
  · obtain ⟨high, low⟩ := digits c.toNat control
    rw [same]
    exact .cons (by decide) (.cons (by decide) (.cons (by decide) (.cons (by decide)
      (.cons high (.cons low .nil)))))
  · rw [same]
    exact .cons plain .nil

theorem oneLine_quote (text : Text) : Text.OneLine (quote text) := by
  have escaped : Text.OneLine (text.flatMap escape) := by
    intro c present
    obtain ⟨source, -, present⟩ := List.mem_flatMap.mp present
    exact oneLine_escape source c present
  exact .cons (by decide) (escaped.append (.cons (by decide) .nil))

end Json
end StreamLinks
