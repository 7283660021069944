import StreamLinks.Text.Basic
/-!
Classes of characters: the numbers of ASCII letters and digits, and what is not in a text whose
characters are all of one class.
-/
namespace StreamLinks

theorem ne_of_class {cls : Char → Bool} {c : Char} (inside : cls c = true) (mark : Char)
    (outside : cls mark = false) : c ≠ mark := by
  rintro rfl
  rw [inside] at outside
  cases outside

theorem not_mem_of_all {cls : Char → Bool} {text : Text} {c : Char} (inside : ∀ c ∈ text, cls c = true)
    (outside : cls c = false) : c ∉ text :=
  fun present => ne_of_class (inside c present) c outside rfl

theorem outside_of_any {cls : Char → Bool} {text : Text} (none : text.any cls = false) :
    ∀ c ∈ text, cls c = false :=
  fun c present => Bool.eq_false_iff.mpr (List.any_eq_false.mp none c present)

namespace Text
variable {c : Char}

-- The characters of a text in two pieces, without decoding it.
theorem toList_append {first second : String} {front back : Text} (one : first = String.ofList front)
    (two : second = String.ofList back) : (first ++ second).toList = front ++ back := by
  rw [String.toList_append, one, two, String.toList_ofList, String.toList_ofList]

theorem isAlphanum_iff : c.isAlphanum = true ↔ (65 ≤ c.toNat ∧ c.toNat ≤ 90) ∨
    (97 ≤ c.toNat ∧ c.toNat ≤ 122) ∨ (48 ≤ c.toNat ∧ c.toNat ≤ 57) := by
  have classes : c.isAlphanum = (decide (c.val ≥ 65 ∧ c.val ≤ 90) || c.val ≥ 97 && c.val ≤ 122 ||
    c.val ≥ 48 && c.val ≤ 57) := rfl
  simp only [classes, Bool.or_eq_true, Bool.and_eq_true, decide_eq_true_eq, ge_iff_le,
    UInt32.le_iff_toNat_le, or_assoc]
  rfl

-- What holds of every ASCII character is found out by looking at them all.
theorem of_ascii {p : Char → Bool} (each : ∀ n < 128, p (Char.ofNat n) = true) (ascii : c.toNat < 128) :
    p c = true := by
  have found := each c.toNat ascii
  rwa [Char.ofNat_toNat] at found

theorem takeWhile_of_all {cls : Char → Bool} {front back : Text} (inside : ∀ c ∈ front, cls c = true)
    (ends : ∀ c ∈ back.head?, cls c = false) : (front ++ back).takeWhile cls = front := by
  rw [List.takeWhile_append_of_pos inside]
  cases back with
  | nil => exact List.append_nil front
  | cons c back => rw [List.takeWhile_cons_of_neg (by simp [ends c rfl]), List.append_nil]

theorem dropWhile_of_all {cls : Char → Bool} {front back : Text} (inside : ∀ c ∈ front, cls c = true)
    (ends : ∀ c ∈ back.head?, cls c = false) : (front ++ back).dropWhile cls = back := by
  rw [List.dropWhile_append_of_pos inside]
  cases back with
  | nil => rfl
  | cons c back => exact List.dropWhile_cons_of_neg (by simp [ends c rfl])

end Text
end StreamLinks
