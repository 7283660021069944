import StreamLinks.Text.Numeral
/-!
Spans of time in whole nanoseconds, and how they are written: `1m 30s`.
-/
namespace StreamLinks

structure Duration where
  nanos : Nat
  deriving Repr, DecidableEq

namespace Duration

def perSecond : Nat := 1000000000

def ofSeconds (seconds : Nat) : Duration := ⟨seconds * perSecond⟩

def ofMillis (millis : Nat) : Duration := ⟨millis * 1000000⟩

/-- The whole seconds. -/
def seconds (duration : Duration) : Nat := duration.nanos / perSecond

/-- What is left beyond the whole seconds. -/
def subsecond (duration : Duration) : Nat := duration.nanos % perSecond

def day : Nat := 86400

/-- A month is 30.44 days long. -/
def month : Nat := 2630016

/-- A year is 365.25 days long. -/
def year : Nat := 31557600

/-- A part of a written span, unless it is zero. -/
def part (unit : String) (count : Nat) : List Text :=
  if count = 0 then [] else [Text.ofNat count ++ unit.toList]

/-- As `part`, with a plural. -/
def wordPart (unit : String) (count : Nat) : List Text :=
  part (if 1 < count then unit ++ "s" else unit) count

/-- The span in the largest units that it fills. -/
def toText (duration : Duration) : Text :=
  if duration.nanos = 0 then "0s".toList
  else
    let inYear := duration.seconds % year
    let inMonth := inYear % month
    let inDay := inMonth % day
    let nanos := duration.subsecond
    Text.join [' '] <|
      wordPart "year" (duration.seconds / year) ++
      wordPart "month" (inYear / month) ++
      wordPart "day" (inMonth / day) ++
      part "h" (inDay / 3600) ++
      part "m" (inDay % 3600 / 60) ++
      part "s" (inDay % 60) ++
      part "ms" (nanos / 1000000) ++
      part "us" (nanos / 1000 % 1000) ++
      part "ns" (nanos % 1000)

end Duration
end StreamLinks
