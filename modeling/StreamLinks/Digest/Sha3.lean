import StreamLinks.Text.FormEncoding
/-!
The digest SHA3-512 of FIPS 202: a sponge over 25 words of 64 bits that takes in 72 bytes at a time.
-/
namespace StreamLinks.Sha3

/-- The state: word `x + 5 * y` stands in column `x` and row `y`. -/
abbrev State := Array UInt64

/-- The bytes taken in before each permutation. -/
def rate : Nat := 72

def roundConstants : List UInt64 := [
  0x0000000000000001, 0x0000000000008082, 0x800000000000808A, 0x8000000080008000,
  0x000000000000808B, 0x0000000080000001, 0x8000000080008081, 0x8000000000008009,
  0x000000000000008A, 0x0000000000000088, 0x0000000080008009, 0x000000008000000A,
  0x000000008000808B, 0x800000000000008B, 0x8000000000008089, 0x8000000000008003,
  0x8000000000008002, 0x8000000000000080, 0x000000000000800A, 0x800000008000000A,
  0x8000000080008081, 0x8000000000008080, 0x0000000080000001, 0x8000000080008008]

/-- By how many bits each word is rotated. -/
def rotations : Array UInt64 := #[
  0, 1, 62, 28, 27, 36, 44, 6, 55, 20, 3, 10, 43, 25, 39, 41, 45, 15, 21, 8, 18, 2, 61, 56, 14]

def rotate (word bits : UInt64) : UInt64 :=
  if bits = 0 then word else (word <<< bits) ||| (word >>> (64 - bits))

/-- The word in a column and a row, both taken modulo five. -/
def word (state : State) (x y : Nat) : UInt64 := state.getD (x % 5 + 5 * (y % 5)) 0

/-- A state from its words. -/
def build (value : Nat → Nat → UInt64) : State :=
  ((List.range 25).map fun place => value (place % 5) (place / 5)).toArray

/-- The parity of a column. -/
def parity (state : State) (x : Nat) : UInt64 :=
  word state x 0 ^^^ word state x 1 ^^^ word state x 2 ^^^ word state x 3 ^^^ word state x 4

def round (state : State) (constant : UInt64) : State :=
  let parities := ((List.range 5).map (parity state)).toArray
  let column (x : Nat) : UInt64 := parities.getD (x % 5) 0
  let mixed := build fun x y => word state x y ^^^ column (x + 4) ^^^ rotate (column (x + 1)) 1
  let moved := build fun x y =>
    rotate (word mixed (x + 3 * y) x) (word rotations (x + 3 * y) x)
  let joined := build fun x y =>
    word moved x y ^^^ (~~~(word moved (x + 1) y) &&& word moved (x + 2) y)
  joined.modify 0 (· ^^^ constant)

def permute (state : State) : State := roundConstants.foldl round state

/-- The word of up to eight bytes, the lowest first. -/
def littleEndian (bytes : List UInt8) : UInt64 :=
  bytes.reverse.foldl (fun value b => value * 256 + b.toUInt64) 0

/-- Takes in one block. -/
def absorbBlock (state : State) (block : List UInt8) : State :=
  permute (state.mapIdx fun place value => value ^^^ littleEndian ((block.drop (8 * place)).take 8))

/-- Takes in as many blocks as there are. -/
def absorb (state : State) : (blocks : Nat) → List UInt8 → State
  | 0, _ => state
  | blocks + 1, bytes => absorb (absorbBlock state (bytes.take rate)) blocks (bytes.drop rate)

/-- The bytes with the padding that fills the last block. -/
def pad (bytes : List UInt8) : List UInt8 :=
  let free := rate - bytes.length % rate
  bytes ++ if free = 1 then [0x86] else 0x06 :: List.replicate (free - 2) 0 ++ [0x80]

/-- The 64 bytes of the digest. -/
def digest (bytes : List UInt8) : List UInt8 :=
  let state := absorb (Array.replicate 25 0) (bytes.length / rate + 1) (pad bytes)
  (List.range 64).map fun place =>
    (state.getD (place / 8) 0 >>> (UInt64.ofNat (8 * (place % 8)))).toUInt8

/-- The digest of a text in small hexadecimal digits. -/
def hexDigest (text : Text) : Text :=
  (digest (Text.toBytes text)).flatMap fun b =>
    [Text.hexDigit (b.toNat / 16), Text.hexDigit (b.toNat % 16)].map Char.toLower

end StreamLinks.Sha3
