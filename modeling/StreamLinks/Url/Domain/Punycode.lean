import StreamLinks.Text.Basic
/-!
Labels of domains in ASCII: the ASCII characters of a label as they stand, then, behind a hyphen, where
the other characters go, as numbers in a system of variable length whose digits are `a` to `z` and `0`
to `9`.
-/
namespace StreamLinks.Url.Domain.Punycode

/-- The value of a digit. -/
def digitValue? (c : Char) : Option Nat :=
  if 'a' ≤ c ∧ c ≤ 'z' then some (c.toNat - 97)
  else if c.isDigit then some (c.toNat - 22)
  else none

/-- The digit of a value below 36. -/
def digitChar (value : Nat) : Char := Char.ofNat (if value < 26 then 97 + value else 22 + value)

/-- The least value of a digit at a place, counted in steps of 36, that has another digit behind it. -/
def threshold (place bias : Nat) : Nat :=
  if place ≤ bias then 1 else if bias + 26 ≤ place then 26 else place - bias

theorem threshold_pos (place bias : Nat) : 1 ≤ threshold place bias := by
  unfold threshold
  split
  · omega
  · split <;> omega

/-- Divides by 35 until at most 455 is left, counting 36 for each division. -/
def damp (delta count : Nat) : Nat × Nat :=
  if 455 < delta then damp (delta / 35) (count + 36) else (delta, count)
termination_by delta
decreasing_by exact Nat.div_lt_self (by omega) (by omega)

/-- The bias for the next number. -/
def nextBias (delta points : Nat) (isFirst : Bool) : Nat :=
  let scaled := if isFirst then delta / 700 else delta / 2
  let (rest, count) := damp (scaled + scaled / points) 0
  count + 36 * rest / (rest + 38)

/-- Numbers have to be below this bound while they are read. -/
def numberBound : Nat := Nat.pow 2 32

/-- Where the reading of a label stands. -/
structure State where
  /-- The characters decoded so far. -/
  decoded : Text
  code : Nat
  bias : Nat
  /-- The position before and within the current number, the weight and the place of its next
  digit. -/
  before : Nat
  position : Nat
  weight : Nat
  place : Nat
  deriving Repr, DecidableEq

/-- The code point is that of a character. -/
def isCode (code : Nat) : Bool := code < 0xD800 || (0xDFFF < code && code < 0x110000)

/-- Reads the numbers of a label and puts the characters in their places. -/
def insertAll (state : State) : Text → Option Text
  | [] => if state.place = 36 then some state.decoded else none
  | c :: rest => do
    let digit ← digitValue? c
    let total := state.position + digit * state.weight
    let threshold := threshold state.place state.bias
    if numberBound ≤ total then none
    else if threshold ≤ digit then
      let weight := state.weight * (36 - threshold)
      if numberBound ≤ weight then none
      else insertAll { state with position := total, weight, place := state.place + 36 } rest
    else
      let points := state.decoded.length + 1
      let code := state.code + total / points
      if isCode code then
        let place := total % points
        let bias := nextBias (total - state.before) points (state.before = 0)
        insertAll
          ⟨state.decoded.insertIdx place (Char.ofNat code), code, bias, place + 1, place + 1, 1, 36⟩ rest
      else none

/-- The label that a text in ASCII stands for. A hyphen at its front is no separator. -/
def decode? (text : Text) : Option Text :=
  let back := (text.reverse.takeWhile (· != '-')).reverse
  let front := text.take (text.length - back.length - 1)
  insertAll ⟨front, 128, 72, 0, 0, 1, 36⟩ (if front.isEmpty then text else back)

/-- The digits of a number. -/
def digits (bias place number : Nat) : Text :=
  let least := threshold place bias
  if number < least then [digitChar number]
  else
    digitChar (least + (number - least) % (36 - least)) ::
      digits bias (place + 36) ((number - least) / (36 - least))
termination_by number
decreasing_by
  have positive := threshold_pos place bias
  exact Nat.lt_of_le_of_lt (Nat.div_le_self _ _) (by omega)

/-- Where the writing of a label stands: the places passed since the last number, the bias, and how many
characters are written. -/
structure Count where
  delta : Nat
  bias : Nat
  written : Nat
  deriving Repr, DecidableEq

/-- Writes the numbers of one code point: a pass over the whole label. -/
def pass (basic code : Nat) : Count → Text → Text × Count
  | count, [] => ([], count)
  | count, c :: rest =>
    if c.toNat < code then pass basic code { count with delta := count.delta + 1 } rest
    else if c.toNat = code then
      let bias := nextBias count.delta (count.written + 1) (count.written = basic)
      let (later, last) := pass basic code ⟨0, bias, count.written + 1⟩ rest
      (digits count.bias 36 count.delta ++ later, last)
    else pass basic code count rest

/-- Writes the numbers of the code points of a list, which ascend. -/
def passes (text : Text) (basic : Nat) : (least : Nat) → Count → List Nat → Text
  | _, _, [] => []
  | least, count, code :: codes =>
    let start := { count with delta := count.delta + (code - least) * (count.written + 1) }
    let (numbers, last) := pass basic code start text
    numbers ++ passes text basic (code + 1) { last with delta := last.delta + 1 } codes

/-- A label as ASCII text. -/
def encode (text : Text) : Text :=
  let basic := text.filter fun c => c.toNat < 0x80
  let codes := ((text.map Char.toNat).filter (0x80 ≤ ·)).mergeSort.eraseDups
  basic ++ (if basic.isEmpty then [] else ['-']) ++
    passes text basic.length 128 ⟨0, 72, basic.length⟩ codes

end StreamLinks.Url.Domain.Punycode
