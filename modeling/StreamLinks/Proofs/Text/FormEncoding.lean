import StreamLinks.Proofs.Text.Classes
import StreamLinks.Proofs.Text.Splitting
import StreamLinks.Proofs.Text.Utf8
import StreamLinks.Text.FormEncoding
/-!
What an encoded form value is made of: plain characters, plus signs and percent signs. So it holds
nothing that divides the fields of a form. Decoding gives back what was encoded, and a field that is
written behind others is read behind them.
-/
namespace StreamLinks.Text

variable {c : Char}

theorem isFormPlain_hexDigit : ∀ value < 16, isFormPlain (hexDigit value) = true := by decide

theorem mem_percentByte {b : UInt8} (present : c ∈ percentByte b) : isFormPlain c = true ∨ c = '%' := by
  have small : b.toNat < 256 := b.toNat_lt
  simp only [percentByte, List.mem_cons, List.not_mem_nil, or_false] at present
  rcases present with rfl | rfl | rfl
  · exact .inr rfl
  · exact .inl (isFormPlain_hexDigit _ (by omega))
  · exact .inl (isFormPlain_hexDigit _ (by omega))

theorem mem_formEncode {text : Text} (present : c ∈ formEncode text) :
    isFormPlain c = true ∨ c = '+' ∨ c = '%' := by
  obtain ⟨source, -, present⟩ := List.mem_flatMap.mp present
  split at present
  · exact .inr (.inl (List.mem_singleton.mp present))
  · split at present
    · rename_i plain
      cases List.mem_singleton.mp present
      exact .inl plain
    · obtain ⟨b, -, present⟩ := List.mem_flatMap.mp present
      exact (mem_percentByte present).imp_right .inr

theorem ampersand_not_mem_formEncode (text : Text) : '&' ∉ formEncode text := by
  intro present
  rcases mem_formEncode present with plain | plus | percent
  · exact ne_of_class plain _ (by decide) rfl
  · exact absurd plus (by decide)
  · exact absurd percent (by decide)

-- Plus signs stand for spaces until the percent signs are read.
theorem map_plus_of_not_mem {text : Text} (absent : '+' ∉ text) :
    (text.map fun c => if c = '+' then ' ' else c) = text := by
  have same (c : Char) (present : c ∈ text) : (if c = '+' then ' ' else c) = c := by
    rw [if_neg]
    rintro rfl
    exact absent present
  exact (List.map_congr_left same).trans (List.map_id' text)

theorem plus_not_mem_percentByte (b : UInt8) : '+' ∉ percentByte b := by
  intro present
  rcases mem_percentByte present with plain | percent
  · exact ne_of_class plain _ (by decide) rfl
  · exact absurd percent (by decide)

theorem hexValue?_hexDigit : ∀ value < 16, hexValue? (hexDigit value) = some value := by decide

theorem percentDecode_percentByte (b : UInt8) (rest : Text) :
    percentDecode (percentByte b ++ rest) = b :: percentDecode rest := by
  have small : b.toNat < 256 := b.toNat_lt
  have whole : b.toNat / 16 * 16 + b.toNat % 16 = b.toNat := by omega
  simp only [percentByte, List.cons_append, List.nil_append, percentDecode,
    hexValue?_hexDigit _ (show b.toNat / 16 < 16 by omega),
    hexValue?_hexDigit _ (show b.toNat % 16 < 16 by omega), whole, UInt8.ofNat_toNat]

theorem percentDecode_percentBytes (bytes : List UInt8) (rest : Text) :
    percentDecode (bytes.flatMap percentByte ++ rest) = bytes ++ percentDecode rest := by
  induction bytes with
  | nil => rfl
  | cons b bytes ih =>
    rw [List.flatMap_cons, List.append_assoc, percentDecode_percentByte, ih, List.cons_append]

theorem percentDecode_cons (ordinary : c ≠ '%') (rest : Text) :
    percentDecode (c :: rest) = String.utf8EncodeChar c ++ percentDecode rest := by
  rw [percentDecode]
  intro high low tail percent
  exact absurd percent ordinary

theorem formEncode_cons (c : Char) (text : Text) :
    formEncode (c :: text) = formEncode [c] ++ formEncode text := by
  simp only [formEncode, List.flatMap_cons, List.flatMap_nil, List.append_nil]

-- One character, in each of the three ways in which it may be written.
theorem percentDecode_formEncode_char (c : Char) (rest : Text) :
    percentDecode (((formEncode [c]).map fun c => if c = '+' then ' ' else c) ++ rest) =
      String.utf8EncodeChar c ++ percentDecode rest := by
  simp only [formEncode, List.flatMap_cons, List.flatMap_nil, List.append_nil]
  split
  · next space =>
    subst space
    exact percentDecode_cons (by decide) rest
  · split
    · next plain =>
      have ordinary : c ≠ '+' := ne_of_class plain _ (by decide)
      rw [List.map_singleton, if_neg ordinary]
      exact percentDecode_cons (ne_of_class plain _ (by decide)) rest
    · have absent : '+' ∉ (String.utf8EncodeChar c).flatMap percentByte := by
        intro present
        obtain ⟨b, -, present⟩ := List.mem_flatMap.mp present
        exact plus_not_mem_percentByte b present
      rw [map_plus_of_not_mem absent, percentDecode_percentBytes]

theorem percentDecode_formEncode (text : Text) :
    percentDecode ((formEncode text).map fun c => if c = '+' then ' ' else c) = toBytes text := by
  induction text with
  | nil => rfl
  | cons c text ih =>
    rw [formEncode_cons, List.map_append, percentDecode_formEncode_char, ih]
    rfl

theorem formDecode_formEncode (text : Text) : formDecode (formEncode text) = text := by
  rw [formDecode, percentDecode_formEncode, ofBytes_toBytes]

theorem formEncode_of_plain {text : Text} (plain : ∀ c ∈ text, isFormPlain c = true) :
    formEncode text = text := by
  induction text with
  | nil => rfl
  | cons c text ih =>
    obtain ⟨first, others⟩ := List.forall_mem_cons.mp plain
    have visible : c ≠ ' ' := ne_of_class first _ (by decide)
    rw [formEncode_cons, ih others]
    simp [formEncode, visible, first]

theorem formDecode_of_plain {text : Text} (plain : ∀ c ∈ text, isFormPlain c = true) :
    formDecode text = text := by
  have kept := formDecode_formEncode text
  rwa [formEncode_of_plain plain] at kept

-- Whatever stands in front of the ampersand is divided by itself.
theorem formPairs_append (front back : Text) :
    formPairs (front ++ '&' :: back) = formPairs front ++ formPairs back := by
  simp only [formPairs, splitAtChar_append, List.filter_append, List.map_append]

theorem formPairs_field {name : Text} (plain : ∀ c ∈ name, isFormPlain c = true) (value : Text) :
    formPairs (name ++ '=' :: formEncode value) = [(name, value)] := by
  have undivided : '&' ∉ name ++ '=' :: formEncode value := by
    rw [List.mem_append, List.mem_cons, not_or, not_or]
    exact ⟨not_mem_of_all plain (by decide), by decide, ampersand_not_mem_formEncode value⟩
  have unequalled : '=' ∉ name := not_mem_of_all plain (by decide)
  simp [formPairs, splitAtChar_last undivided, cut_piece unequalled, formDecode_of_plain plain,
    formDecode_formEncode]

end StreamLinks.Text
