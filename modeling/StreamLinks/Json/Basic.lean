import StreamLinks.Rounding
import StreamLinks.Text.Basic
/-!
JSON values as documents hold them.
-/
namespace StreamLinks.Json

/-- A number as it is written. Whole numbers fit in words of 64 bits. -/
inductive Number where
  | natural (n : Nat)
  /-- A minus sign and a natural number other than zero. -/
  | negative (n : Nat)
  /-- A number with a fraction or an exponent, minus zero, or a number that fits in no word:
  `digits * 10 ^ exponent` without its sign, where only the leading digits that fit in a word are
  kept. -/
  | decimal (digits : Nat) (exponent : Int)
  deriving Repr, DecidableEq

/-- A value. Members of an object keep their order and may repeat a name. -/
inductive Value where
  | null
  | bool (value : Bool)
  | number (value : Number)
  | string (value : Text)
  | array (items : List Value)
  | object (members : List (Text × Value))
  /-- A text with half of a surrogate pair, or an object with such a name. It can be passed over but
  stands for no value. -/
  | broken
  deriving Repr, Inhabited

/-- The values of all members with a name. -/
def members (name : Text) (list : List (Text × Value)) : List Value :=
  (list.filter fun (key, _) => key == name).map (·.2)

/-- The number rounds to a finite floating-point number of 64 bits. Digits and power of ten are each
rounded before they are multiplied, and no power beyond the 308th is tried. -/
def Number.isFinite : Number → Bool
  | natural _ => true
  | negative _ => true
  | decimal digits exponent =>
    if digits = 0 ∨ exponent ≤ 0 then true
    else if 308 < exponent then false
    else
      Rounding.toFloatGrid digits * Rounding.toFloatGrid (Nat.pow 10 exponent.toNat) < Rounding.floatLimit

mutual
/-- The value can be kept as it is: it holds no broken text, no number beyond the floating-point
range, and nests at most `room` deep. -/
def Value.isKept (room : Nat) : Value → Bool
  | .null => true
  | .bool _ => true
  | .number value => value.isFinite
  | .string _ => true
  | .broken => false
  | .array items => 0 < room && areKept (room - 1) items
  | .object members => 0 < room && membersKept (room - 1) members

def areKept (room : Nat) : List Value → Bool
  | [] => true
  | item :: items => item.isKept room && areKept room items

def membersKept (room : Nat) : List (Text × Value) → Bool
  | [] => true
  | (_, value) :: members => value.isKept room && membersKept room members
end

end StreamLinks.Json
