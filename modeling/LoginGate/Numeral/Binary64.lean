/-!
# Double-precision numbers

Values of the binary interchange format with 64 bits, kept as integers `m * 2 ^ e`, so that
rounding and comparison are exact integer computations.

## Main definitions

* `Binary64` : a number that is not a number, infinite, or `± m * 2 ^ e`.
* `Binary64.ofRatio`, `Binary64.ofDecimal` : the nearest value, a tie going to the even one.
* `Binary64.truncate?`, `Binary64.toInt?` : the whole part, and the value where it is whole.
* `Binary64.isPositiveFinite` : the values that can be a duration.
-/

namespace LoginGate

/-- A double-precision number. -/
inductive Binary64 where
  /-- Not a number. -/
  | nan
  /-- Either infinity. -/
  | infinite (negative : Bool)
  /-- The value `significand * 2 ^ exponent`, or its negative. -/
  | finite (negative : Bool) (significand : Nat) (exponent : Int)
  deriving DecidableEq, Repr

/-- A quotient rounded to the nearest whole number, a tie to the even one. -/
def roundDiv (num den : Nat) : Nat :=
  let q := num / den
  let r := num % den
  if 2 * r < den then q
  else if den < 2 * r then q + 1
  else if q % 2 = 0 then q else q + 1

namespace Binary64

/-- The value zero with a sign. -/
def zero (negative : Bool) : Binary64 := .finite negative 0 (-1074)

/-- The least exponent of a finite value. -/
def minExponent : Int := -1074

/-- The greatest exponent of a finite value. -/
def maxExponent : Int := 971

/-- The greatest `k` for which `2 ^ k` is at most the positive quotient `num / den`. -/
def floorLog2 (num den : Nat) : Int :=
  let k : Int := (Nat.log2 num : Int) - Nat.log2 den
  let reached := if k < 0 then den ≤ num * Nat.pow 2 (-k).toNat else den * Nat.pow 2 k.toNat ≤ num
  if reached then k else k - 1

/-- The double nearest to the quotient `num / den`, a tie going to the even significand. -/
def ofRatio (negative : Bool) (num den : Nat) : Binary64 :=
  if num = 0 then zero negative
  else
    let e := max (floorLog2 num den - 52) minExponent
    let m :=
      if e < 0 then roundDiv (num * Nat.pow 2 (-e).toNat) den
      else roundDiv num (den * Nat.pow 2 e.toNat)
    let (m, e) := if m = Nat.pow 2 53 then (Nat.pow 2 52, e + 1) else (m, e)
    if maxExponent < e then .infinite negative else .finite negative m e

/-- The double nearest to `digits * 10 ^ exponent`.  A number whose first digit stands beyond the
400th place on either side is out of range whatever its digits are. -/
def ofDecimal (negative : Bool) (digits : Nat) (exponent : Int) : Binary64 :=
  let places := (Nat.log2 digits : Int) * 30103 / 100000 + exponent
  if digits = 0 ∨ places < -400 then zero negative
  else if 400 < places then .infinite negative
  else if exponent < 0 then ofRatio negative digits (Nat.pow 10 (-exponent).toNat)
  else ofRatio negative (digits * Nat.pow 10 exponent.toNat) 1

/-- The double nearest to a whole number. -/
def ofInt (i : Int) : Binary64 := ofRatio (i < 0) i.natAbs 1

/-- The size of a finite value without its fraction. -/
def magnitude (significand : Nat) (exponent : Int) : Nat :=
  if exponent < 0 then significand / Nat.pow 2 (-exponent).toNat
  else significand * Nat.pow 2 exponent.toNat

/-- The whole part, towards zero, of a finite value. -/
def truncate? : Binary64 → Option Int
  | .finite negative m e =>
    some (if negative then -(magnitude m e : Int) else (magnitude m e : Int))
  | _ => none

/-- The value as a whole number, where it is one. -/
def toInt? : Binary64 → Option Int
  | .finite negative m e =>
    if e < 0 ∧ m % Nat.pow 2 (-e).toNat ≠ 0 then none
    else some (if negative then -(magnitude m e : Int) else (magnitude m e : Int))
  | _ => none

/-- The value as a quotient, where it is finite. -/
def toRat? : Binary64 → Option Rat
  | .finite negative m e =>
    let size : Rat :=
      if e < 0 then mkRat m (Nat.pow 2 (-e).toNat) else (m * Nat.pow 2 e.toNat : Nat)
    some (if negative then -size else size)
  | _ => none

/-- Whether the value is neither infinite nor not a number. -/
def isFinite : Binary64 → Bool
  | .finite .. => true
  | _ => false

/-- Whether the value is finite and above zero. -/
def isPositiveFinite : Binary64 → Bool
  | .finite negative m _ => !negative && m != 0
  | _ => false

end Binary64

end LoginGate
