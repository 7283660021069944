import Mathlib.Data.List.GetD
import StreamLinks.Digest.Sha3
/-!
The digest over numbers.

A state is also the list of the numbers that its words stand for. Each step of a round on the words is a
step on these numbers, so the digest can be computed without words, which takes far fewer steps.
-/
namespace StreamLinks.Sha3

-- The numbers of the words.
def lanes (state : State) : List Nat := state.toList.map UInt64.toNat

def lane (lanes : List Nat) (x y : Nat) : Nat := lanes.getD (x % 5 + 5 * (y % 5)) 0

def turn (lane bits : Nat) : Nat := (lane <<< bits % Nat.pow 2 64) ||| (lane >>> (64 - bits))

def buildLanes (value : Nat → Nat → Nat) : List Nat :=
  (List.range 25).map fun place => value (place % 5) (place / 5)

def laneParity (lanes : List Nat) (x : Nat) : Nat :=
  lane lanes x 0 ^^^ lane lanes x 1 ^^^ lane lanes x 2 ^^^ lane lanes x 3 ^^^ lane lanes x 4

def laneRound (lanes : List Nat) (constant : Nat) : List Nat :=
  let parities := (List.range 5).map (laneParity lanes)
  let column (x : Nat) : Nat := parities.getD (x % 5) 0
  let mixed := buildLanes fun x y => lane lanes x y ^^^ column (x + 4) ^^^ turn (column (x + 1)) 1
  let turns := rotations.toList.map UInt64.toNat
  let moved := buildLanes fun x y => turn (lane mixed (x + 3 * y) x) (lane turns (x + 3 * y) x)
  let joined := buildLanes fun x y =>
    lane moved x y ^^^ ((Nat.pow 2 64 - 1 - lane moved (x + 1) y) &&& lane moved (x + 2) y)
  joined.modify 0 (· ^^^ constant)

def permuteLanes (lanes : List Nat) : List Nat :=
  roundConstants.foldl (fun lanes constant => laneRound lanes constant.toNat) lanes

def absorbLaneBlock (lanes : List Nat) (block : List UInt8) : List Nat :=
  permuteLanes (lanes.mapIdx fun place lane =>
    lane ^^^ (littleEndian ((block.drop (8 * place)).take 8)).toNat)

def absorbLanes (lanes : List Nat) : (blocks : Nat) → List UInt8 → List Nat
  | 0, _ => lanes
  | blocks + 1, bytes => absorbLanes (absorbLaneBlock lanes (bytes.take rate)) blocks (bytes.drop rate)

def laneDigest (bytes : List UInt8) : List UInt8 :=
  let lanes := absorbLanes (List.replicate 25 0) (bytes.length / rate + 1) (pad bytes)
  (List.range 64).map fun place => UInt8.ofNat (lanes.getD (place / 8) 0 >>> (8 * (place % 8)))

theorem getD_lanes (state : State) (place : Nat) :
    (lanes state).getD place 0 = (state.getD place 0).toNat := by
  rw [lanes, ← UInt64.toNat_zero, List.getD_map]
  simp

theorem lane_lanes (state : State) (x y : Nat) : lane (lanes state) x y = (word state x y).toNat :=
  getD_lanes state _

theorem lanes_build (value : Nat → Nat → UInt64) :
    lanes (build value) = buildLanes fun x y => (value x y).toNat := by
  simp [lanes, build, buildLanes]

theorem toNat_rotate (word : UInt64) {bits : UInt64} (small : bits.toNat < 64) :
    (rotate word bits).toNat = turn word.toNat bits.toNat := by
  have bound : word.toNat < Nat.pow 2 64 := word.toNat_lt
  unfold rotate turn
  split
  · next none =>
    subst none
    rw [UInt64.toNat_zero, Nat.shiftLeft_zero, Nat.mod_eq_of_lt bound, Nat.sub_zero,
      Nat.shiftRight_eq_div_pow, Nat.div_eq_of_lt bound, Nat.or_zero]
  · next some =>
    have filled : bits.toNat ≠ 0 := fun zero => some (UInt64.toNat_inj.mp zero)
    have rest : (64 - bits).toNat = 64 - bits.toNat := by
      rw [UInt64.toNat_sub_of_le]
      · rfl
      · rw [UInt64.le_iff_toNat_le]
        exact Nat.le_of_lt small
    rw [UInt64.toNat_or, UInt64.toNat_shiftLeft, UInt64.toNat_shiftRight, rest, Nat.mod_eq_of_lt small,
      Nat.mod_eq_of_lt (show 64 - bits.toNat < 64 by omega)]

-- No rotation goes once around a word.
theorem rotations_small (x y : Nat) : (word rotations x y).toNat < 64 := by
  have each : rotations.toList.all (·.toNat < 64) = true := by decide
  rw [word, Array.getD]
  split
  · exact of_decide_eq_true (List.all_eq_true.mp each _ (Array.getElem_mem_toList _))
  · decide

theorem lanes_modify (state : State) (constant : UInt64) :
    lanes (state.modify 0 (· ^^^ constant)) = (lanes state).modify 0 (· ^^^ constant.toNat) := by
  simp only [lanes, Array.toList_modify]
  cases state.toList <;> simp

theorem laneParity_lanes (state : State) (x : Nat) : laneParity (lanes state) x = (parity state x).toNat := by
  simp only [laneParity, parity, lane_lanes, UInt64.toNat_xor]

theorem lanes_parities (state : State) :
    lanes ((List.range 5).map (parity state)).toArray = (List.range 5).map (laneParity (lanes state)) := by
  simp only [lanes, List.map_map]
  exact List.map_congr_left fun x _ => (laneParity_lanes state x).symm

theorem lanes_round (state : State) (constant : UInt64) :
    lanes (round state constant) = laneRound (lanes state) constant.toNat := by
  have once (word : UInt64) : (rotate word 1).toNat = turn word.toNat 1 := toNat_rotate word (by decide)
  have moved (w : UInt64) (x y : Nat) :
      (rotate w (word rotations x y)).toNat = turn w.toNat (lane (lanes rotations) x y) := by
    rw [lane_lanes, toNat_rotate w (rotations_small x y)]
  simp only [round, lanes_modify, lanes_build, UInt64.toNat_xor, UInt64.toNat_and, UInt64.toNat_not, once, moved,
    ← lane_lanes, ← getD_lanes, lanes_parities]
  rfl

theorem lanes_permute (state : State) : lanes (permute state) = permuteLanes (lanes state) :=
  (List.foldl_hom lanes fun state constant => (lanes_round state constant).symm).symm

theorem lanes_absorbBlock (state : State) (block : List UInt8) :
    lanes (absorbBlock state block) = absorbLaneBlock (lanes state) block := by
  rw [absorbBlock, lanes_permute, absorbLaneBlock]
  congr 1
  apply List.ext_getElem <;> simp [lanes]

theorem lanes_absorb (state : State) (blocks : Nat) (bytes : List UInt8) :
    lanes (absorb state blocks bytes) = absorbLanes (lanes state) blocks bytes := by
  induction blocks generalizing state bytes with
  | zero => rfl
  | succ blocks ih => rw [absorb, ih, lanes_absorbBlock, absorbLanes]

theorem toUInt8_shiftRight (word : UInt64) (place : Nat) :
    (word >>> UInt64.ofNat (8 * (place % 8))).toUInt8 = UInt8.ofNat (word.toNat >>> (8 * (place % 8))) := by
  have small : 8 * (place % 8) < 64 := by omega
  apply UInt8.toNat_inj.mp
  rw [UInt64.toNat_toUInt8, UInt64.toNat_shiftRight, UInt64.toNat_ofNat', Nat.mod_eq_of_lt (show _ < 2 ^ 64 by omega),
    Nat.mod_eq_of_lt small, UInt8.toNat_ofNat']

theorem digest_eq (bytes : List UInt8) : digest bytes = laneDigest bytes := by
  have blank : lanes (Array.replicate 25 0) = List.replicate 25 0 := rfl
  simp only [digest, laneDigest, toUInt8_shiftRight, ← getD_lanes, lanes_absorb, blank]

end StreamLinks.Sha3
