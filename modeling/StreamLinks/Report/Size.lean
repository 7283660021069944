import StreamLinks.Rounding
import StreamLinks.Text.Numeral
/-!
Sizes in bytes as people read them: `1.5 MB`.

A size is first rounded to a floating-point number of 64 bits, which matters from 2 ^ 53 on, and then
to one decimal of the largest unit that it fills. A half goes to the even neighbour both times.
-/
namespace StreamLinks.Size

/-- The units, each 1024 times the one before. -/
def units : List String := ["B", "KB", "MB", "GB", "TB"]

/-- The place of the largest unit that a positive size fills. -/
def unitOf (bytes : Nat) : Nat := min (Nat.log2 bytes / 10) (units.length - 1)

/-- A size in its unit. Whole bytes have no decimal. -/
def toText (bytes : Nat) : Text :=
  let bytes' := Rounding.toFloatGrid bytes
  let place := unitOf bytes'
  let unit := (units[place]?.getD "").toList
  if place = 0 then Text.ofNat bytes ++ ' ' :: unit
  else
    let tenths := Rounding.divideToEven (bytes' * 10) (Nat.pow 1024 place)
    Text.ofNat (tenths / 10) ++ '.' :: Text.ofNat (tenths % 10) ++ ' ' :: unit

end StreamLinks.Size
