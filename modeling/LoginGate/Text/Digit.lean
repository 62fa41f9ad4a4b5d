/-!
# Decimal digits of every script

Each script's ten digits stand in a row, so the zeros tell all.

## Main definitions

* `Digit.zeros` : the code points of the digits zero.
* `digitValue?` : the value of a decimal digit.
-/

namespace LoginGate

/-- The code points of the zeros of all scripts, increasing. -/
def Digit.zeros : List Nat := [
  48, 1632, 1776, 1984, 2406, 2534, 2662, 2790, 2918, 3046, 3174, 3302, 3430, 3558, 3664, 3792,
  3872, 4160, 4240, 6112, 6160, 6470, 6608, 6784, 6800, 6992, 7088, 7232, 7248, 42528, 43216,
  43264, 43472, 43504, 43600, 44016, 65296, 66720, 68912, 69734, 69872, 69942, 70096, 70384,
  70736, 70864, 71248, 71360, 71472, 71904, 72016, 72784, 73040, 73120, 92768, 92864, 93008,
  120782, 120792, 120802, 120812, 120822, 123200, 123632, 125264, 130032]

/-- The value of a decimal digit of any script. -/
def digitValue? (c : Char) : Option Nat :=
  (Digit.zeros.find? fun z => z ≤ c.toNat ∧ c.toNat < z + 10).map (c.toNat - ·)

/-- Whether a character is a decimal digit of any script. -/
def isDecimalDigit (c : Char) : Bool := (digitValue? c).isSome

/-- The digits from 0 to 9 only. -/
def isAsciiDigit (c : Char) : Bool := '0' ≤ c && c ≤ '9'

end LoginGate
