/-!
Character classes given as lists of closed code point ranges.
-/
namespace StreamLinks.Text

/-- Membership of a character in a list of closed code point ranges. -/
def inRanges (ranges : List (Nat × Nat)) (c : Char) : Bool :=
  ranges.any fun (low, high) => low ≤ c.toNat && c.toNat ≤ high

end StreamLinks.Text
