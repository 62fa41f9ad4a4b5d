import LoginGate.Numeral.Binary64

/-!
# The shortest decimal text of a double

Among the decimal numbers that are nearer to a double than to any other, the text shows one with
the fewest digits, and of those the nearest.

## Main definitions

* `Binary64.shortest` : digits and exponent of that decimal number.
* `Binary64.text` : its text; positional from `0.0001` up to below `10 ^ 16`, and always with a
  fraction or an exponent.
-/

namespace LoginGate.Binary64

/-- A decimal number `digits * 10 ^ exponent`. -/
structure Decimal where
  /-- The digits, as one number. -/
  digits : Nat
  /-- The power of ten that they count. -/
  exponent : Int
  deriving DecidableEq, Repr

/-- Whether `a * 2 ^ e ≤ b * 10 ^ p`. -/
def binaryLeDecimal (a : Nat) (e : Int) (b : Nat) (p : Int) : Bool :=
  a * Nat.pow 2 e.toNat * Nat.pow 10 (-p).toNat ≤ b * Nat.pow 10 p.toNat * Nat.pow 2 (-e).toNat

/-- Whether `b * 10 ^ p ≤ a * 2 ^ e`. -/
def decimalLeBinary (b : Nat) (p : Int) (a : Nat) (e : Int) : Bool :=
  b * Nat.pow 10 p.toNat * Nat.pow 2 (-e).toNat ≤ a * Nat.pow 2 e.toNat * Nat.pow 10 (-p).toNat

/-- The greatest `k` for which `10 ^ k` is at most the positive value `m * 2 ^ e`, found from an
estimate that is at most one off. -/
def floorLog10 (m : Nat) (e : Int) : Int :=
  let k : Int := ((Nat.log2 m : Int) + e) * 30103 / 100000
  if decimalLeBinary 1 (k + 1) m e then k + 1
  else if decimalLeBinary 1 k m e then k
  else k - 1

/-- Whether `b * 10 ^ p` rounds to the double `m * 2 ^ e`.  The neighbour below a power of two is
only half as far; the ends of the interval belong to it when the significand is even. -/
def roundsTo (m : Nat) (e : Int) (b : Nat) (p : Int) : Bool :=
  let low := if m = Nat.pow 2 52 ∧ minExponent < e then 4 * m - 1 else 4 * m - 2
  let high := 4 * m + 2
  if m % 2 = 0 then binaryLeDecimal low (e - 2) b p && decimalLeBinary b p high (e - 2)
  else !decimalLeBinary b p low (e - 2) && !binaryLeDecimal high (e - 2) b p

/-- The neighbour of `m * 2 ^ e` among the multiples of `10 ^ p` that rounds to it, the nearer one
when both do, and of two equally near ones the even one. -/
def onGrid? (m : Nat) (e p : Int) : Option Nat :=
  let num := m * Nat.pow 2 e.toNat * Nat.pow 10 (-p).toNat
  let den := Nat.pow 10 p.toNat * Nat.pow 2 (-e).toNat
  let q := num / den
  match roundsTo m e q p, roundsTo m e (q + 1) p with
  | true, true => some (roundDiv num den)
  | true, false => some q
  | false, true => some (q + 1)
  | false, false => none

/-- Without the zeros at the end of the digits. -/
def dropZeros : (steps : Nat) → Decimal → Decimal
  | 0, d => d
  | steps + 1, d =>
    if d.digits ≠ 0 ∧ d.digits % 10 = 0 then dropZeros steps ⟨d.digits / 10, d.exponent + 1⟩ else d

/-- The first of the grids with `count`, `count + 1`, … digits that has a hit; seventeen digits
always have one. -/
def firstHit (m : Nat) (e top : Int) : (count left : Nat) → Decimal
  | count, 0 => ⟨0, top - count⟩
  | count, left + 1 =>
    match onGrid? m e (top - count + 1) with
    | some q => ⟨q, top - count + 1⟩
    | none => firstHit m e top (count + 1) left

/-- The shortest decimal number that rounds to the positive double `m * 2 ^ e`. -/
def shortest (m : Nat) (e : Int) : Decimal :=
  dropZeros 20 (firstHit m e (floorLog10 m e) 1 17)

/-- Text of a whole number with at least two digits. -/
def twoDigits (n : Nat) : String := if n < 10 then "0" ++ toString n else toString n

/-- Text of the positive number `digits * 10 ^ exponent`. -/
def Decimal.text (d : Decimal) : String :=
  let ds := (toString d.digits).toList
  let point : Int := ds.length + d.exponent
  if -4 < point ∧ point ≤ 16 then
    if point ≤ 0 then "0." ++ String.ofList (List.replicate (-point).toNat '0' ++ ds)
    else if (ds.length : Int) ≤ point then
      String.ofList (ds ++ List.replicate (point - ds.length).toNat '0') ++ ".0"
    else String.ofList (ds.take point.toNat ++ '.' :: ds.drop point.toNat)
  else
    let fraction := if ds.length ≤ 1 then [] else '.' :: ds.drop 1
    let sign := if point - 1 < 0 then "-" else "+"
    String.ofList (ds.take 1 ++ fraction) ++ "e" ++ sign ++ twoDigits (point - 1).natAbs

/-- The shortest text that reads back as the same double. -/
def text : Binary64 → String
  | .nan => "nan"
  | .infinite negative => if negative then "-inf" else "inf"
  | .finite negative m e =>
    (if negative then "-" else "") ++ (if m = 0 then "0.0" else (shortest m e).text)

end LoginGate.Binary64
