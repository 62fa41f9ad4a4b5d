import LoginGate.Bytes

/-!
# The hash function SHAKE256

A sponge: blocks of 136 bytes are mixed one after another into a state of 25 lanes, and the result
comes out of the same state.

## Main definitions

* `Keccak.permute` : the permutation of the state.
* `Keccak.shake256` : a hash of any length.
-/

namespace LoginGate.Keccak

/-- Five rows of five lanes each, lane `x` of row `y` at `x + 5 * y`. -/
abbrev State := Array UInt64

/-- The state of given lanes. -/
def build (lane : Nat → Nat → UInt64) : State :=
  (Array.range 25).map fun i => lane (i % 5) (i / 5)

/-- A lane, the places counted around. -/
def lane (state : State) (x y : Nat) : UInt64 := state.getD (x % 5 + 5 * (y % 5)) 0

/-- Rotation to the left. -/
def rotate (word : UInt64) (amount : Nat) : UInt64 :=
  if amount = 0 then word
  else word <<< amount.toUInt64 ||| word >>> (64 - amount).toUInt64

/-- The rotation of every lane. -/
def offsets : Array Nat :=
  #[0, 1, 62, 28, 27, 36, 44, 6, 55, 20, 3, 10, 43, 25, 39, 41, 45, 15, 21, 8, 18, 2, 61, 56, 14]

/-- One constant a round. -/
def constants : List UInt64 := [
  0x0000000000000001, 0x0000000000008082, 0x800000000000808A, 0x8000000080008000,
  0x000000000000808B, 0x0000000080000001, 0x8000000080008081, 0x8000000000008009,
  0x000000000000008A, 0x0000000000000088, 0x0000000080008009, 0x000000008000000A,
  0x000000008000808B, 0x800000000000008B, 0x8000000000008089, 0x8000000000008003,
  0x8000000000008002, 0x8000000000000080, 0x000000000000800A, 0x800000008000000A,
  0x8000000080008081, 0x8000000000008080, 0x0000000080000001, 0x8000000080008008]

/-- Mixes every lane with the sums of two columns beside it. -/
def theta (state : State) : State :=
  let sums := (Array.range 5).map fun x =>
    (List.range 5).foldl (fun sum y => sum ^^^ lane state x y) 0
  let sum (x : Nat) := sums.getD (x % 5) 0
  build fun x y => lane state x y ^^^ sum (x + 4) ^^^ rotate (sum (x + 1)) 1

/-- Rotates the lanes and moves them to other places. -/
def rhoPi (state : State) : State :=
  build fun x y => rotate (lane state (x + 3 * y) x) (offsets.getD ((x + 3 * y) % 5 + 5 * x) 0)

/-- Mixes every lane with the two beside it in its row. -/
def chi (state : State) : State :=
  build fun x y => lane state x y ^^^ (~~~(lane state (x + 1) y) &&& lane state (x + 2) y)

/-- A round: all that, and a constant mixed into the first lane. -/
def round (state : State) (constant : UInt64) : State :=
  (chi (rhoPi (theta state))).modify 0 (· ^^^ constant)

/-- The permutation of the state. -/
def permute (state : State) : State := constants.foldl round state

/-- Bytes that go into the state, or come out of it, at a time. -/
def rate : Nat := 136

/-- A message with the padding that fills its last block. -/
def padded (message : Bytes) : Bytes :=
  match rate - message.length % rate with
  | 0 | 1 => message ++ [0x9F]
  | room + 2 => message ++ 0x1F :: List.replicate room 0 ++ [0x80]

/-- Mixes a block into the state. -/
def mix (state : State) (block : Bytes) : State :=
  (Array.range 25).map fun i =>
    state.getD i 0 ^^^ (Bytes.toNatLE ((block.drop (8 * i)).take 8)).toUInt64

/-- The state after some blocks. -/
def absorb : (blocks : Nat) → State → Bytes → State
  | 0, state, _ => state
  | blocks + 1, state, bytes =>
    absorb blocks (permute (mix state (bytes.take rate))) (bytes.drop rate)

/-- Blocks out of the state. -/
def squeeze : (blocks : Nat) → State → Bytes
  | 0, _ => []
  | blocks + 1, state =>
    (state.toList.flatMap fun word => Bytes.ofNatLE 8 word.toNat).take rate ++
      squeeze blocks (permute state)

/-- The hash of a message, in `size` bytes. -/
def shake256 (size : Nat) (message : Bytes) : Bytes :=
  let bytes := padded message
  let state := absorb (bytes.length / rate) (Array.replicate 25 0) bytes
  (squeeze (size / rate + 1) state).take size

end LoginGate.Keccak
