import LoginGate.Bytes

/-!
# Random bytes

Randomness is drawn in pieces of three sizes: initialisation vectors, code verifiers and states.
The pieces of one size are numbered, so that what has been drawn is known from three counts.

## Main definitions

* `Entropy` : a source of random bytes.
* `Draws` : how many pieces of each size have been drawn.
-/

namespace LoginGate

/-- A source of random bytes. -/
structure Entropy where
  /-- Byte number `position` of piece number `index` among the pieces of `size` bytes. -/
  byte : (size index position : Nat) → UInt8

namespace Entropy

/-- Piece number `index` of `size` bytes. -/
def piece (entropy : Entropy) (size index : Nat) : Bytes :=
  (List.range size).map (entropy.byte size index)

@[simp] theorem length_piece (entropy : Entropy) (size index : Nat) :
    (entropy.piece size index).length = size := by simp [piece]

/-- Initialisation vector number `index`. -/
def iv (entropy : Entropy) (index : Nat) : Bytes := entropy.piece 12 index

/-- The bytes of code verifier number `index`. -/
def verifier (entropy : Entropy) (index : Nat) : Bytes := entropy.piece 64 index

/-- The bytes of state number `index`. -/
def state (entropy : Entropy) (index : Nat) : Bytes := entropy.piece 16 index

end Entropy

/-- How many pieces of each size have been drawn. -/
structure Draws where
  ivs : Nat := 0
  verifiers : Nat := 0
  states : Nat := 0
  deriving DecidableEq, Repr

end LoginGate
