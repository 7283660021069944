import StreamLinks.Text.Utf8
/-!
Text survives the way through its bytes.

The first byte of a character says how many are owed and which values the next of them may have. Each byte
that is owed adds six bits, and when the last of them is read the bits are the character again.
-/
namespace StreamLinks.Text

variable {b : UInt8} {rest : List UInt8} {low high : UInt8} {bits n : Nat}

theorem lead_one : ∀ n < 0x80, lead (UInt8.ofNat n) = .done (Char.ofNat n) := by decide

-- With a smaller number the character would have fitted into one byte.
theorem lead_two : ∀ n < 0x20, 2 ≤ n →
    lead (UInt8.ofNat (n + 0xC0)) = .owes ⟨0, 0x80, 0xBF, n⟩ := by decide

theorem lead_three : ∀ n < 0x10, lead (UInt8.ofNat (n + 0xE0)) =
    .owes ⟨1, if n = 0 then 0xA0 else 0x80, if n = 0x0D then 0x9F else 0xBF, n⟩ := by decide

theorem lead_four : ∀ n < 5, lead (UInt8.ofNat (n + 0xF0)) =
    .owes ⟨2, if n = 0 then 0x90 else 0x80, if n = 4 then 0x8F else 0xBF, n⟩ := by decide

theorem decodeFrom_done {c : Char} (first : lead b = .done c) :
    decodeFrom none (b :: rest) = c :: decodeFrom none rest := by
  simp only [decodeFrom, first, List.nil_append]

theorem decodeFrom_owes {owed : Owed} (first : lead b = .owes owed) :
    decodeFrom none (b :: rest) = decodeFrom (some owed) rest := by
  simp only [decodeFrom, first, List.nil_append]

theorem toNat_owed (small : n < 0x40) : (UInt8.ofNat (n + 0x80)).toNat = n + 0x80 := by
  rw [UInt8.toNat_ofNat']
  omega

section
variable (small : n < 0x40) (least : low.toNat ≤ n + 0x80) (greatest : n + 0x80 ≤ high.toNat)
include small least greatest

theorem owed_allowed : low ≤ UInt8.ofNat (n + 0x80) ∧ UInt8.ofNat (n + 0x80) ≤ high := by
  rw [UInt8.le_iff_toNat_le, UInt8.le_iff_toNat_le, toNat_owed small]
  exact ⟨least, greatest⟩

theorem decodeFrom_last :
    decodeFrom (some ⟨0, low, high, bits⟩) (UInt8.ofNat (n + 0x80) :: rest) =
      Char.ofNat (bits * 64 + n) :: decodeFrom none rest := by
  simp only [decodeFrom, if_pos (owed_allowed small least greatest), toNat_owed small,
    Nat.add_sub_cancel]

theorem decodeFrom_next {more : Nat} :
    decodeFrom (some ⟨more + 1, low, high, bits⟩) (UInt8.ofNat (n + 0x80) :: rest) =
      decodeFrom (some ⟨more, 0x80, 0xBF, bits * 64 + n⟩) rest := by
  simp only [decodeFrom, if_pos (owed_allowed small least greatest), toNat_owed small,
    Nat.add_sub_cancel]

end

theorem decodeFrom_utf8EncodeChar (c : Char) (rest : List UInt8) :
    decodeFrom none (String.utf8EncodeChar c ++ rest) = c :: decodeFrom none rest := by
  have valid : c.toNat < 0xD800 ∨ 0xDFFF < c.toNat ∧ c.toNat < 0x110000 := c.valid
  have code : c.val.toNat = c.toNat := rfl
  have whole {bits : Nat} (same : bits = c.toNat) : Char.ofNat bits = c := by
    rw [same, Char.ofNat_toNat]
  unfold String.utf8EncodeChar
  simp only [code]
  split
  · rw [List.singleton_append, decodeFrom_done (lead_one _ (by omega)), whole rfl]
  · split
    · rw [List.cons_append, List.singleton_append, decodeFrom_owes (lead_two _ (by omega) (by omega)),
        decodeFrom_last (by omega) (by simp) (by simp; omega), whole (by omega)]
    · split
      · -- What would have fitted into two bytes is no longer here, and surrogates are no characters.
        have least : (if c.toNat / 4096 % 16 = 0 then 0xA0 else 0x80 : UInt8).toNat ≤
            c.toNat / 64 % 64 + 0x80 := by
          split <;> simp
          omega
        have greatest : c.toNat / 64 % 64 + 0x80 ≤
            (if c.toNat / 4096 % 16 = 0x0D then 0x9F else 0xBF : UInt8).toNat := by
          split <;> simp <;> omega
        rw [List.cons_append, List.cons_append, List.singleton_append,
          decodeFrom_owes (lead_three _ (by omega)), decodeFrom_next (by omega) least greatest,
          decodeFrom_last (by omega) (by simp) (by simp; omega), whole (by omega)]
      · -- What would have fitted into three bytes is no longer here, and there is a last character.
        have least : (if c.toNat / 262144 % 8 = 0 then 0x90 else 0x80 : UInt8).toNat ≤
            c.toNat / 4096 % 64 + 0x80 := by
          split <;> simp
          omega
        have greatest : c.toNat / 4096 % 64 + 0x80 ≤
            (if c.toNat / 262144 % 8 = 4 then 0x8F else 0xBF : UInt8).toNat := by
          split <;> simp <;> omega
        rw [List.cons_append, List.cons_append, List.cons_append, List.singleton_append,
          decodeFrom_owes (lead_four _ (by omega)), decodeFrom_next (by omega) least greatest,
          decodeFrom_next (by omega) (by simp) (by simp; omega),
          decodeFrom_last (by omega) (by simp) (by simp; omega), whole (by omega)]

theorem ofBytes_toBytes (text : Text) : ofBytes (toBytes text) = text := by
  unfold ofBytes toBytes
  induction text with
  | nil => rfl
  | cons c text ih => rw [List.flatMap_cons, decodeFrom_utf8EncodeChar, ih]

end StreamLinks.Text
