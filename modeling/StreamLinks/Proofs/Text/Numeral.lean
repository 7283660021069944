import StreamLinks.Text.Numeral
/-!
Numerals: what is written for a number is read as that number.
-/
namespace StreamLinks.Text

theorem isDigit_of_mem_ofNat {n : Nat} {c : Char} (present : c ∈ ofNat n) : c.isDigit = true :=
  Nat.isDigit_of_mem_toDigits (by decide) (by decide) present

theorem ofNat_ne_nil (n : Nat) : ofNat n ≠ [] := Nat.toDigits_ne_nil

theorem digitsValue_eq (digits : Text) : digitsValue digits = Nat.ofDigitChars 10 digits 0 := by
  rw [Nat.ofDigitChars_eq_foldl]
  unfold digitsValue
  congr 1
  funext value c
  rw [Nat.mul_comm]

theorem readNat?_ofNat {bound n : Nat} (fits : n < bound) : readNat? bound (ofNat n) = some n := by
  have digits : (ofNat n).all Char.isDigit = true :=
    List.all_eq_true.mpr fun c present => isDigit_of_mem_ofNat present
  have value : digitsValue (ofNat n) = n := by
    rw [digitsValue_eq]
    exact Nat.ofDigitChars_ten_toDigits
  simp [readNat?, digits, value, fits, ofNat_ne_nil]

theorem readNat?_eq_some_iff {bound n : Nat} {text : Text} : readNat? bound text = some n ↔
    text ≠ [] ∧ (∀ c ∈ text, c.isDigit = true) ∧ digitsValue text < bound ∧ digitsValue text = n := by
  unfold readNat?
  by_cases empty : text = []
  · simp [empty]
  · by_cases digits : text.all Char.isDigit = true
    · have each := List.all_eq_true.mp digits
      simp only [List.isEmpty_eq_false_iff.mpr empty, digits, Bool.not_true, Bool.or_self,
        Bool.false_eq_true, if_false, Option.ite_none_right_eq_some, Option.some.injEq]
      exact ⟨fun ⟨fits, same⟩ => ⟨empty, each, fits, same⟩, fun ⟨_, _, fits, same⟩ => ⟨fits, same⟩⟩
    · have some_other : ¬ ∀ c ∈ text, c.isDigit = true := by simpa using digits
      simp only [digits, Bool.not_false, Bool.or_true, if_true, reduceCtorEq, some_other, false_and,
        and_false]

-- Only zero is written with a zero in front.
theorem head?_ofNat {n : Nat} (positive : 0 < n) : (ofNat n).head? ≠ some '0' := by
  induction n using Nat.strongRecOn with
  | ind n ih =>
    unfold ofNat at ih ⊢
    by_cases small : n < 10
    · have digits : ∀ n < 10, 0 < n → [Nat.digitChar n].head? ≠ some '0' := by decide
      rw [Nat.toDigits_of_lt_base small]
      exact digits n small positive
    · have front : (Nat.toDigits 10 (n / 10)).head?.isSome :=
        List.isSome_head?.mpr Nat.toDigits_ne_nil
      rw [Nat.toDigits_of_base_le (by decide) (by omega), List.head?_append,
        Option.or_of_isSome front]
      exact ih (n / 10) (by omega) (by omega)

end StreamLinks.Text
