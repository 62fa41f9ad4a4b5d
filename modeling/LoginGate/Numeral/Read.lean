import LoginGate.Numeral.Binary64
import LoginGate.Text.Blank
import LoginGate.Text.Digit

/-!
# Numbers written by hand

What an administrator or a provider may write for a number: blanks around it, a sign, decimal
digits of any script, single underscores between digits.

## Main definitions

* `Numeral.readInt?` : whole numbers of at most `maxDigits` digits.
* `Numeral.readBinary64?` : numbers with a point and an exponent, and the names of the infinities
  and of what is not a number.
-/

namespace LoginGate.Numeral

/-- The most digits of a whole number that are read. -/
def maxDigits : Nat := 4300

/-- Blanks that may stand around a number: all but the information separators. -/
def isMargin (c : Char) : Bool := isBlank c && !(28 ≤ c.toNat && c.toNat ≤ 31)

/-- Without the blanks around, and every digit as its ASCII form. -/
def normalized (text : String) : List Char :=
  let cs := ((text.toList.dropWhile isMargin).reverse.dropWhile isMargin).reverse
  cs.map fun c =>
    match digitValue? c with
    | some d => Char.ofNat (48 + d)
    | none => c

/-- Takes out the underscores, each of which has to stand between two digits. -/
def joinDigits? : (afterDigit : Bool) → List Char → Option (List Char)
  | _, [] => some []
  | afterDigit, '_' :: rest =>
    match rest with
    | d :: _ => if afterDigit && isAsciiDigit d then joinDigits? false rest else none
    | [] => none
  | _, c :: rest => (joinDigits? (isAsciiDigit c) rest).map (c :: ·)

/-- The sign in front, and the rest. -/
def takeSign : List Char → Bool × List Char
  | '+' :: rest => (false, rest)
  | '-' :: rest => (true, rest)
  | cs => (false, cs)

/-- The number with these ASCII digits. -/
def digitsValue (ds : List Char) : Nat := ds.foldl (fun n c => n * 10 + (c.toNat - 48)) 0

/-- A number with its sign. -/
def signed (negative : Bool) (n : Nat) : Int := if negative then -(n : Int) else n

/-- Reads a whole number. -/
def readInt? (text : String) : Option Int := do
  let cs ← joinDigits? false (normalized text)
  let (negative, ds) := takeSign cs
  if ds.isEmpty || !ds.all isAsciiDigit || maxDigits < ds.length then none
  else some (signed negative (digitsValue ds))

/-- An exponent mark with a whole number, or nothing. -/
def readExponent? : List Char → Option Int
  | [] => some 0
  | c :: rest =>
    if c = 'e' ∨ c = 'E' then
      let (negative, ds) := takeSign rest
      if ds.isEmpty || !ds.all isAsciiDigit then none
      else some (signed negative (digitsValue ds))
    else none

/-- Digits with or without a point, then perhaps an exponent. -/
def readUnsigned? (negative : Bool) (cs : List Char) : Option Binary64 := do
  let whole := cs.takeWhile isAsciiDigit
  let rest := cs.dropWhile isAsciiDigit
  let (fraction, rest) :=
    match rest with
    | '.' :: tail => (tail.takeWhile isAsciiDigit, tail.dropWhile isAsciiDigit)
    | _ => ([], rest)
  if whole.isEmpty && fraction.isEmpty then none
  else
    let exponent ← readExponent? rest
    some (.ofDecimal negative (digitsValue (whole ++ fraction)) (exponent - fraction.length))

/-- Reads a number with a point and an exponent. -/
def readBinary64? (text : String) : Option Binary64 := do
  let cs ← joinDigits? false (normalized text)
  let (negative, cs) := takeSign cs
  let name := String.ofList (cs.map Char.toLower)
  if name = "inf" ∨ name = "infinity" then some (.infinite negative)
  else if name = "nan" then some .nan
  else readUnsigned? negative cs

end LoginGate.Numeral
