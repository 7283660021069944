import StreamLinks.Json.Basic
/-!
Typed reading of JSON values.

A record is read from an object, or from an array of its fields in the order of their declaration.
Each field says what stands for it when it is left out.
-/
namespace StreamLinks.Json

/-- The name of a field of a record, and whether an array may end before it. -/
structure Field where
  name : String
  mayEnd : Bool := false

/-- The value of each field, if it is given: from the members of an object, of which none may repeat
the name of a field, or from the items of an array, which may not have more items than fields. -/
def fields (wanted : List Field) : Value → Option (List (Option Value))
  | .object given =>
    wanted.mapM fun field =>
      match members field.name.toList given with
      | [] => some none
      | [value] => some (some value)
      | _ => none
  | .array items =>
    if wanted.length < items.length then none
    else if (wanted.drop items.length).all (·.mayEnd) then
      some (items.map some ++ List.replicate (wanted.length - items.length) none)
    else none
  | _ => none

def text? : Value → Option Text
  | .string value => some value
  | _ => none

def bool? : Value → Option Bool
  | .bool value => some value
  | _ => none

/-- A natural number below a bound. -/
def below? (bound : Nat) : Value → Option Nat
  | .number (.natural n) => if n < bound then some n else none
  | _ => none

/-- Numbers of 32 bits. -/
def word32? : Value → Option Nat := below? (Nat.pow 2 32)

/-- Numbers of 64 bits. -/
def word64? : Value → Option Nat := below? (Nat.pow 2 64)

/-- All items of an array. -/
def listOf? (item : Value → Option α) : Value → Option (List α)
  | .array items => items.mapM item
  | _ => none

/-- A map from names to values; the last value of a name counts. -/
def mapOf? (value : Value → Option α) : Value → Option (List (Text × α))
  | .object members => members.mapM fun (name, v) => (value v).map fun v => (name, v)
  | _ => none

/-- A field that has to be given. -/
def required (read : Value → Option α) : Option Value → Option α
  | some value => read value
  | none => none

/-- A field that may be left out or be null. -/
def optional (read : Value → Option α) : Option Value → Option (Option α)
  | none => some none
  | some .null => some none
  | some value => (read value).map some

/-- A field that may be left out, but not be null. -/
def defaulted (default : α) (read : Value → Option α) : Option Value → Option α
  | none => some default
  | some value => read value

end StreamLinks.Json
