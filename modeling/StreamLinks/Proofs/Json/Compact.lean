import StreamLinks.Proofs.Json.Reading
/-!
Values on one line: the text reads as the value that it is written for, and holds no line break.
-/
namespace StreamLinks.Json

mutual
-- The value is written as it is: whole numbers without a sign that fit in a word, and nothing broken.
def Value.IsPlain : Value → Prop
  | .null => True
  | .bool _ => True
  | .number (.natural n) => n < wordBound
  | .number _ => False
  | .string _ => True
  | .broken => False
  | .array items => arePlain items
  | .object members => membersPlain members

def arePlain : List Value → Prop
  | [] => True
  | item :: items => item.IsPlain ∧ arePlain items

def membersPlain : List (Text × Value) → Prop
  | [] => True
  | (_, value) :: members => value.IsPlain ∧ membersPlain members
end

theorem arePlain_map {α : Type} {toJson : α → Value} {values : List α}
    (each : ∀ value ∈ values, (toJson value).IsPlain) : arePlain (values.map toJson) := by
  induction values with
  | nil => trivial
  | cons value values ih =>
    exact ⟨each value (List.mem_cons_self ..),
      ih fun other present => each other (List.mem_cons_of_mem _ present)⟩

theorem arePlain_strings (texts : List Text) : arePlain (texts.map .string) :=
  arePlain_map fun _ _ => trivial

mutual
theorem reads_compact : (value : Value) → value.IsPlain → Reads value value.compact
  | .null, _ => reads_null
  | .bool true, _ => reads_true
  | .bool false, _ => reads_false
  | .number (.natural _), fits => reads_natural fits
  | .string text, _ => reads_string text
  | .array [], _ => reads_emptyArray
  | .array (item :: items), plain => by
    have reads := readsItems_compact (item :: items) (by simp) plain
    simpa [Value.compact] using reads_array reads [] (by simp)
  | .object [], _ => reads_emptyObject
  | .object (member :: members), plain => by
    have reads := readsMembers_compact (member :: members) (by simp) plain
    simpa [Value.compact] using reads_object reads [] (by simp)

theorem readsItems_compact : (items : List Value) → items ≠ [] → arePlain items →
    ReadsItems items (compactItems items)
  | [], filled, _ => absurd rfl filled
  | [item], _, plain => (reads_compact item plain.1).lastItem
  | item :: next :: items, _, plain =>
    (reads_compact item plain.1).item (readsItems_compact (next :: items) (by simp) plain.2)

theorem readsMembers_compact : (members : List (Text × Value)) → members ≠ [] →
    membersPlain members → ReadsMembers members (compactMembers members)
  | [], filled, _ => absurd rfl filled
  | [(name, value)], _, plain => (reads_compact value plain.1).lastMember name
  | (name, value) :: next :: members, _, plain =>
    (reads_compact value plain.1).member name
      (readsMembers_compact (next :: members) (by simp) plain.2)
end

theorem read_compact {value : Value} (plain : value.IsPlain) : read value.compact = some value :=
  (reads_compact value plain).read

theorem oneLine_ofNat (n : Nat) : Text.OneLine (Text.ofNat n) := by
  intro c present
  have digit := Text.isDigit_of_mem_ofNat present
  simp only [Char.isDigit, Bool.and_eq_true, decide_eq_true_eq] at digit
  exact Nat.le_trans (by decide) (show 48 ≤ c.toNat from digit.1)

theorem oneLine_number (number : Number) : Text.OneLine number.toText := by
  cases number with
  | natural n => exact oneLine_ofNat n
  | negative n => exact .cons (by decide) (oneLine_ofNat n)
  | decimal digits exponent =>
    refine ((oneLine_ofNat digits).append (.cons (by decide) .nil)).append ?_
    split
    · exact .cons (by decide) (oneLine_ofNat _)
    · exact oneLine_ofNat _

mutual
theorem oneLine_compact : (value : Value) → Text.OneLine value.compact
  | .null => by decide
  | .broken => by decide
  | .bool true => by decide
  | .bool false => by decide
  | .number number => oneLine_number number
  | .string text => oneLine_quote text
  | .array items => .cons (by decide) ((oneLine_compactItems items).append (.cons (by decide) .nil))
  | .object members =>
    .cons (by decide) ((oneLine_compactMembers members).append (.cons (by decide) .nil))

theorem oneLine_compactItems : (items : List Value) → Text.OneLine (compactItems items)
  | [] => .nil
  | [item] => oneLine_compact item
  | item :: next :: items =>
    (oneLine_compact item).append (.cons (by decide) (oneLine_compactItems (next :: items)))

theorem oneLine_compactMembers : (members : List (Text × Value)) →
    Text.OneLine (compactMembers members)
  | [] => .nil
  | [(name, value)] => (oneLine_quote name).append (.cons (by decide) (oneLine_compact value))
  | (name, value) :: next :: members =>
    ((oneLine_quote name).append (.cons (by decide) (oneLine_compact value))).append
      (.cons (by decide) (oneLine_compactMembers (next :: members)))
end

end StreamLinks.Json
