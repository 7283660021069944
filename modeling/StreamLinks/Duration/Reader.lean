import StreamLinks.Duration.Basic
import StreamLinks.Text.Utf8
/-!
Reading spans of time.

A span is a sequence of numbers with units, all added up. Blanks may stand around and inside of
numbers. A number may have a fraction, if it comes out even.
-/
namespace StreamLinks

/-- Why a text is no span of time. Places are offsets in bytes. -/
inductive DurationError where
  | empty
  | tooLarge
  | invalidCharacter (place : Nat)
  | numberExpected (place : Nat)
  | unknownUnit (unit : Text) (value : Nat)
  deriving Repr, DecidableEq

def DurationError.message : DurationError → Text
  | empty => "value was empty".toList
  | tooLarge => "number is too large".toList
  | invalidCharacter place => "invalid character at ".toList ++ Text.ofNat place
  | numberExpected place => "expected number at ".toList ++ Text.ofNat place
  | unknownUnit [] value =>
    "time unit needed, for example ".toList ++ Text.ofNat value ++ "sec or ".toList ++
      Text.ofNat value ++ "ms".toList
  | unknownUnit unit _ =>
    "unknown time unit \"".toList ++ unit ++ "\", supported units: ns, us/µs, ms, sec, min, ".toList ++
      "hours, days, weeks, months, years (and few variations)".toList

namespace Duration

/-- A fraction of a number. -/
structure Fraction where
  numerator : Nat
  denominator : Nat
  deriving Repr, DecidableEq

/-- The worth of a unit. -/
inductive Worth where
  | nanos (count : Nat)
  | seconds (count : Nat)
  deriving Repr, DecidableEq

/-- The units by their names. `fine` is the worth that counts for fractions. -/
structure TimeUnit where
  names : List String
  whole : Worth
  fine : Worth
  deriving Repr

def units : List TimeUnit := [
  ⟨["nanos", "nsec", "ns"], .nanos 1, .nanos 1⟩,
  ⟨["usec", "us", "µs"], .nanos 1000, .nanos 1000⟩,
  ⟨["millis", "msec", "ms"], .nanos 1000000, .nanos 1000000⟩,
  ⟨["seconds", "second", "secs", "sec", "s"], .seconds 1, .nanos perSecond⟩,
  ⟨["minutes", "minute", "min", "mins", "m"], .seconds 60, .nanos (60 * perSecond)⟩,
  ⟨["hours", "hour", "hrs", "hr", "h"], .seconds 3600, .seconds 3600⟩,
  ⟨["days", "day", "d"], .seconds day, .seconds day⟩,
  ⟨["weeks", "week", "wk", "wks", "w"], .seconds (7 * day), .seconds (7 * day)⟩,
  ⟨["months", "month", "M"], .seconds month, .seconds month⟩,
  ⟨["years", "year", "yr", "yrs", "y"], .seconds year, .seconds year⟩]

def unit? (name : Text) : Option TimeUnit :=
  units.find? fun unit => (unit.names.map String.toList).contains name

/-- All numbers on the way are unsigned words. -/
def wordBound : Nat := Nat.pow 2 64

def bounded (n : Nat) : Except DurationError Nat :=
  if n < wordBound then .ok n else .error .tooLarge

/-- Characters of units. -/
def isUnitChar (c : Char) : Bool := c.isAlpha || c == 'µ'

def digitValue (c : Char) : Nat := c.toNat - '0'.toNat

/-- The place where `rest` begins inside of `text`. -/
def placeOf (text rest : Text) : Nat := (Text.toBytes text).length - (Text.toBytes rest).length

/-- The digits behind a decimal point, and the unit with all behind it. `mark` is where the last
character that counts begins or ends. -/
def readFraction (text mark : Text) (fraction : Fraction) :
    Text → Except DurationError (Fraction × Text)
  | [] =>
    if fraction.denominator = 1 then .error (.invalidCharacter (placeOf text mark))
    else .ok (fraction, [])
  | c :: rest =>
    if c.isDigit then do
      let denominator ← bounded (fraction.denominator * 10)
      let numerator ← bounded (fraction.numerator * 10 + digitValue c)
      readFraction text rest ⟨numerator, denominator⟩ rest
    else if Text.isBlank c then readFraction text rest fraction rest
    else if isUnitChar c && fraction.denominator != 1 then .ok (fraction, c :: rest)
    else .error (.invalidCharacter (placeOf text mark))

/-- A number behind its first digits, its fraction, and the unit with all behind it. -/
def readNumber (text : Text) (value : Nat) :
    Text → Except DurationError (Nat × Option Fraction × Text)
  | [] => .ok (value, none, [])
  | c :: rest =>
    if c.isDigit then do
      let value ← bounded (value * 10 + digitValue c)
      readNumber text value rest
    else if Text.isBlank c then readNumber text value rest
    else if isUnitChar c then .ok (value, none, c :: rest)
    else if c = '.' then do
      let (fraction, rest) ← readFraction text (c :: rest) ⟨0, 1⟩ rest
      return (value, some fraction, rest)
    else .error (.invalidCharacter (placeOf text (c :: rest)))

/-- The seconds and the nanoseconds of a number of units. -/
def worthOf (count : Nat) : Worth → Except DurationError (Nat × Nat)
  | .nanos each => do return (0, ← bounded (count * each))
  | .seconds each => do return (← bounded (count * each), 0)

/-- The seconds and the nanoseconds of a fraction of a unit, which has to come out even. A nanosecond
has no fractions. -/
def fractionOf (fraction : Fraction) : Worth → Except DurationError (Nat × Nat)
  | .nanos 1 => .error .tooLarge
  | worth => do
    let (seconds, nanos) ← worthOf fraction.numerator worth
    if (seconds + nanos) % fraction.denominator = 0 then
      return (seconds / fraction.denominator, nanos / fraction.denominator)
    else .error .tooLarge

/-- Adds seconds and nanoseconds to a span. All parts of the sum are words. -/
def addParts (total : Nat) : Nat × Nat → Except DurationError Nat
  | (seconds, nanos) => do
    let nanos ← bounded (total % perSecond + nanos)
    let seconds ← bounded (total / perSecond + seconds + nanos / perSecond)
    return seconds * perSecond + nanos % perSecond

/-- Adds a number of a unit to a span. -/
def addItem (total value : Nat) (fraction : Option Fraction) (name : Text) :
    Except DurationError Nat :=
  match unit? name with
  | none => .error (.unknownUnit name value)
  | some unit => do
    let total ← addParts total (← worthOf value unit.whole)
    match fraction with
    | none => return total
    | some fraction => addParts total (← fractionOf fraction unit.fine)

/-- Reads the items of a span. Each takes at least one character, so the length of the text is enough
fuel. `first` tells whether an item has to come. -/
def readItems (text : Text) : (fuel : Nat) → (first : Bool) → (total : Nat) → Text →
    Except DurationError Nat
  | 0, _, total, _ => .ok total
  | fuel + 1, first, total, rest =>
    match rest.dropWhile Text.isBlank with
    | [] => if first then .error .empty else .ok total
    | c :: behind =>
      if c.isDigit then do
        let (value, fraction, rest) ← readNumber text (digitValue c) behind
        let name := rest.takeWhile isUnitChar
        let rest := rest.dropWhile isUnitChar
        match rest with
        | d :: _ =>
          if !d.isDigit && !Text.isBlank d then .error (.invalidCharacter (placeOf text rest))
          else
            let total ← addItem total value fraction name
            readItems text fuel false total rest
        | [] => addItem total value fraction name
      else .error (.numberExpected (placeOf text (c :: behind)))

/-- Reads a span. A bare zero needs no unit. -/
def read (text : Text) : Except DurationError Duration :=
  if text = ['0'] then .ok ⟨0⟩
  else (readItems text (text.length + 1) true 0 text).map Duration.mk

end Duration
end StreamLinks
