import StreamLinks.Proofs.Text.Numeral
import StreamLinks.Stream.Link
/-!
The samples a second that a provider gives for a stream.

A numeral counts only if its number fits in a word of 32 bits, while a number of up to 64 bits is cut down to such
a word. So the two ways of writing one number agree exactly if it fits.
-/
namespace StreamLinks

namespace Text
variable {bound n m : Nat} {numeral : Text}

-- Digits for the number, with or without a plus sign in front.
def Spells (numeral : Text) (n : Nat) : Prop := ∃ digits, (numeral = digits ∨ numeral = '+' :: digits) ∧
  digits ≠ [] ∧ (∀ c ∈ digits, c.isDigit = true) ∧ digitsValue digits = n

theorem plus_not_mem {digits : Text} (each : ∀ c ∈ digits, c.isDigit = true) : '+' ∉ digits := by
  intro present
  cases each '+' present

theorem readSigned?_eq_some_iff : readSigned? bound numeral = some n ↔ Spells numeral n ∧ n < bound := by
  unfold readSigned?
  split
  · next digits =>
    rw [readNat?_eq_some_iff]
    constructor
    · rintro ⟨filled, each, fits, rfl⟩
      exact ⟨⟨digits, .inr rfl, filled, each, rfl⟩, fits⟩
    · rintro ⟨⟨other, same | same, filled, each, rfl⟩, fits⟩
      · exact absurd (same ▸ List.mem_cons_self) (plus_not_mem each)
      · obtain rfl := (List.cons.inj same).2
        exact ⟨filled, each, fits, rfl⟩
  · next unsigned =>
    rw [readNat?_eq_some_iff]
    constructor
    · rintro ⟨filled, each, fits, rfl⟩
      exact ⟨⟨_, .inl rfl, filled, each, rfl⟩, fits⟩
    · rintro ⟨⟨digits, rfl | rfl, filled, each, rfl⟩, fits⟩
      · exact ⟨filled, each, fits, rfl⟩
      · exact absurd rfl (unsigned digits)

theorem spells_ofNat (n : Nat) : Spells (ofNat n) n := by
  refine ⟨_, .inl rfl, ofNat_ne_nil n, fun c => isDigit_of_mem_ofNat, ?_⟩
  rw [digitsValue_eq]
  exact Nat.ofDigitChars_ten_toDigits

theorem Spells.unique (first : Spells numeral n) (second : Spells numeral m) : n = m := by
  obtain ⟨digits, rfl | rfl, -, each, rfl⟩ := first
  · obtain ⟨others, rfl | rfl, -, -, rfl⟩ := second
    · rfl
    · exact absurd List.mem_cons_self (plus_not_mem each)
  · obtain ⟨others, same | same, -, eachOther, rfl⟩ := second
    · exact absurd (same ▸ List.mem_cons_self) (plus_not_mem eachOther)
    · rw [(List.cons.inj same).2]

end Text

namespace Descriptor

-- The rate that a value is read as.
inductive Rated : Json.Value → Nat → Prop where
  | numeral {numeral : Text} {rate : Nat} (spells : Text.Spells numeral rate) (fits : rate < Nat.pow 2 32) :
      Rated (.string numeral) rate
  | number {n : Nat} (word : n < Nat.pow 2 64) : Rated (.number (.natural n)) (n % Nat.pow 2 32)

variable {descriptor : Descriptor} {n rate : Nat}

theorem sampleRate_eq_some_iff : descriptor.sampleRate = some rate ↔
    ∃ value, descriptor.audioSampleRate = some value ∧ Rated value rate := by
  unfold sampleRate
  split
  · next numeral given =>
    rw [Text.readSigned?_eq_some_iff, given]
    constructor
    · rintro ⟨spells, fits⟩
      exact ⟨_, rfl, .numeral spells fits⟩
    · rintro ⟨_, ⟨⟩, rated⟩
      cases rated with
      | numeral spells fits => exact ⟨spells, fits⟩
  · next n given =>
    rw [Option.ite_none_right_eq_some, given]
    constructor
    · rintro ⟨word, ⟨⟩⟩
      exact ⟨_, rfl, .number word⟩
    · rintro ⟨_, ⟨⟩, rated⟩
      cases rated with
      | number word => exact ⟨word, rfl⟩
  · next noNumeral noNumber =>
    constructor
    · intro found
      cases found
    · rintro ⟨_, given, rated⟩
      cases rated with
      | numeral spells fits => exact absurd given (noNumeral _)
      | number word => exact absurd given (noNumber _)

theorem sampleRate_of_number (word : n < Nat.pow 2 64)
    (given : descriptor.audioSampleRate = some (.number (.natural n))) :
    descriptor.sampleRate = some (n % Nat.pow 2 32) :=
  sampleRate_eq_some_iff.2 ⟨_, given, .number word⟩

theorem sampleRate_of_numeral (given : descriptor.audioSampleRate = some (.string (Text.ofNat n))) :
    descriptor.sampleRate = if n < Nat.pow 2 32 then some n else none := by
  split
  · next fits => exact sampleRate_eq_some_iff.2 ⟨_, given, .numeral (Text.spells_ofNat n) fits⟩
  · next wide =>
    refine Option.eq_none_iff_forall_ne_some.mpr fun rate found => ?_
    obtain ⟨_, same, rated⟩ := sampleRate_eq_some_iff.1 found
    rw [given] at same
    cases same
    cases rated with
    | numeral spells fits =>
      obtain rfl := spells.unique (Text.spells_ofNat n)
      exact wide fits

-- One number as a number and as a numeral: the links agree exactly below the word size.
theorem sampleRate_agree_iff (word : n < Nat.pow 2 64) {numbered spelled : Descriptor}
    (number : numbered.audioSampleRate = some (.number (.natural n)))
    (numeral : spelled.audioSampleRate = some (.string (Text.ofNat n))) :
    (Link.ofDescriptor spelled).audioSampleRate = (if n < Nat.pow 2 32 then some n else none) ∧
      (Link.ofDescriptor numbered).audioSampleRate = some (n % Nat.pow 2 32) ∧
      ((Link.ofDescriptor numbered).audioSampleRate = (Link.ofDescriptor spelled).audioSampleRate ↔
        n < Nat.pow 2 32) := by
  have cut : (Link.ofDescriptor numbered).audioSampleRate = some (n % Nat.pow 2 32) :=
    sampleRate_of_number word number
  have checked : (Link.ofDescriptor spelled).audioSampleRate = if n < Nat.pow 2 32 then some n else none :=
    sampleRate_of_numeral numeral
  refine ⟨checked, cut, ?_⟩
  rw [cut, checked]
  by_cases fits : n < Nat.pow 2 32
  · simp only [fits, if_true, Nat.mod_eq_of_lt fits]
  · simp only [fits, if_false, reduceCtorEq]

-- The greatest rate that fits.
theorem sampleRate_agree_iff_greatest :
    let n := 4294967295
    let numbered : Descriptor := { itag := 251, audioSampleRate := some (.number (.natural n)) }
    let spelled : Descriptor := { itag := 251, audioSampleRate := some (.string "4294967295".toList) }
    n < Nat.pow 2 64 ∧ spelled.audioSampleRate = some (.string (Text.ofNat n)) ∧
      (Link.ofDescriptor spelled).audioSampleRate = some n ∧
      (Link.ofDescriptor numbered).audioSampleRate = (Link.ofDescriptor spelled).audioSampleRate := by
  intro n numbered spelled
  have word : n < Nat.pow 2 64 := by decide
  have fits : n < Nat.pow 2 32 := by decide
  have digits : Text.ofNat n = "4294967295".toList := by decide
  have numeral : spelled.audioSampleRate = some (.string (Text.ofNat n)) := by rw [digits]
  obtain ⟨checked, -, agree⟩ := @sampleRate_agree_iff n word numbered spelled rfl numeral
  rw [if_pos fits] at checked
  exact ⟨word, numeral, checked, agree.mpr fits⟩

-- The rate 4294967297 becomes 1 where it is written as a number.
theorem wideRate_cut_down : 4294967297 < Nat.pow 2 64 ∧
    (read "\x7b\"itag\":251,\"audioSampleRate\":4294967297\x7d".toList).map
      (fun descriptor => (Link.ofDescriptor descriptor).audioSampleRate) = some (some 1) ∧
    (read "\x7b\"itag\":251,\"audioSampleRate\":\"4294967297\"\x7d".toList).map
      (fun descriptor => (Link.ofDescriptor descriptor).audioSampleRate) = some none := by
  decide +kernel

end Descriptor
end StreamLinks
