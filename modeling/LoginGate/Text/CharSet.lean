/-!
# Sets of characters by their boundaries

A set of code points is kept as the increasing list of the places where membership changes, so
that a character belongs to the set when an odd number of boundaries lies at or below it.

## Main definitions

* `CharSet` : a set of characters.
* `CharSet.contains` : membership, by bisection.
-/

namespace LoginGate

/-- A set of characters: the increasing code points at which membership changes. -/
structure CharSet where
  /-- The places where membership changes, increasing. -/
  boundaries : Array Nat

namespace CharSet

/-- The number of entries of `table` at or below `n`, given that it lies between `low` and `high`.
Each step halves the distance, so a word's worth of steps is enough for any table. -/
def countUpTo (table : Array Nat) (n : Nat) : (steps low high : Nat) → Nat
  | 0, low, _ => low
  | steps + 1, low, high =>
    if low < high then
      let middle := (low + high) / 2
      if table.getD middle 0 ≤ n then countUpTo table n steps (middle + 1) high
      else countUpTo table n steps low middle
    else low

/-- Whether a code point lies in the set. -/
def containsCode (set : CharSet) (code : Nat) : Bool :=
  countUpTo set.boundaries code 64 0 set.boundaries.size % 2 == 1

/-- Whether a character lies in the set. -/
def contains (set : CharSet) (c : Char) : Bool := set.containsCode c.toNat

end CharSet

end LoginGate
