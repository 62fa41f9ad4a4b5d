import LoginGate.Numeral.Read
import LoginGate.Text.Blank
import LoginGate.Text.LowerCase
import LoginGate.Text.Quoted
import LoginGate.Url.Percent
import LoginGate.Url.Punycode

/-!
# Hosts

## Main definitions

* `Host.octets?` : a numeric address of four decimal numbers.
* `Host.number?` : a numeric address of up to four numbers in any base.
* `Host.groups?`, `Host.groupsText` : an address of eight groups.
* `Host.ascii` : a name in ASCII.
-/

namespace LoginGate.Host

/-! ### Numeric addresses -/

/-- A decimal number up to 255 without leading zeros. -/
def octet? (cs : List Char) : Option Nat :=
  if cs.isEmpty || !cs.all isAsciiDigit || 3 < cs.length then none
  else if 1 < cs.length && cs.head? = some '0' then none
  else if Numeral.digitsValue cs < 256 then some (Numeral.digitsValue cs) else none

/-- Four decimal numbers up to 255, with points between them. -/
def octets? (cs : List Char) : Option (List Nat) :=
  match (splitAt '.' cs).mapM octet? with
  | some [a, b, c, d] => some [a, b, c, d]
  | _ => none

/-- Digits in a base up to sixteen. -/
def digitsIn? (base : Nat) (cs : List Char) : Option Nat :=
  cs.foldlM (fun n c => do
    let d ← Bytes.hexValue? c
    if d < base then some (n * base + d) else none) 0

/-- A number, hexadecimal after `0x` and octal after another zero. -/
def number? (cs : List Char) : Option Nat :=
  match cs with
  | [] => none
  | '0' :: 'x' :: ds | '0' :: 'X' :: ds => digitsIn? 16 ds
  | '0' :: d :: ds => digitsIn? 8 (d :: ds)
  | ds => digitsIn? 10 ds

/-- Without an empty last piece. -/
def dropEmptyLast (pieces : List (List Char)) : List (List Char) :=
  if 1 < pieces.length && (pieces.getLast?.getD []).isEmpty then pieces.dropLast else pieces

/-- Whether a name has to be a numeric address: its last part is a number. -/
def endsInNumber (cs : List Char) : Bool :=
  match (dropEmptyLast (splitAt '.' cs)).getLast? with
  | some last => !last.isEmpty && (last.all isAsciiDigit || (number? last).isSome)
  | none => false

/-- The value of the numbers before the last one, one byte each. -/
def leadingBytes? : List Nat → Option Nat
  | ns => if ns.all (· < 256) then some (ns.foldl (fun n d => n * 256 + d) 0) else none

/-- A numeric address of up to four numbers, of which the last fills what is left. -/
def address? (cs : List Char) : Option Nat := do
  let numbers ← (dropEmptyLast (splitAt '.' cs)).mapM number?
  let last ← numbers.getLast?
  let size := 5 - numbers.length
  if 4 < numbers.length || Nat.pow 256 size ≤ last then none
  else
    let leading ← leadingBytes? numbers.dropLast
    some (leading * Nat.pow 256 size + last)

/-- A numeric address as four decimal numbers. -/
def addressText (n : Nat) : List Char :=
  (".".intercalate ((Bytes.ofNatBE 4 n).map fun b => toString b.toNat)).toList

/-! ### Addresses of eight groups -/

/-- A group of up to four hexadecimal digits. -/
def group? (cs : List Char) : Option Nat :=
  if cs.isEmpty || 4 < cs.length then none else digitsIn? 16 cs

/-- Groups between colons; the last one may be a numeric address, which makes two groups. -/
def groupList? : List (List Char) → Option (List Nat)
  | [] => some []
  | [last] =>
    match octets? last with
    | some [a, b, c, d] => some [a * 256 + b, c * 256 + d]
    | _ => (group? last).map ([·])
  | piece :: pieces => do
    let n ← group? piece
    let ns ← groupList? pieces
    pure (n :: ns)

/-- The groups of one side of two colons. -/
def side? (cs : List Char) : Option (List Nat) :=
  if cs.isEmpty then some [] else groupList? (splitAt ':' cs)

/-- What stands on the two sides of the first two colons in a row. -/
def splitDouble? : List Char → Option (List Char × List Char)
  | ':' :: ':' :: rest => some ([], rest)
  | c :: rest => (splitDouble? rest).map fun (before, after) => (c :: before, after)
  | [] => none

/-- The eight groups of an address; two colons in a row stand for groups of zeros. -/
def groups? (cs : List Char) : Option (List Nat) := do
  match splitDouble? cs with
  | none =>
    let groups ← groupList? (splitAt ':' cs)
    if groups.length = 8 then some groups else none
  | some (before, after) =>
    if before.contains '.' then none
    else
      let left ← side? before
      let right ← side? after
      let count := left.length + right.length
      if count < 8 then some (left ++ List.replicate (8 - count) 0 ++ right) else none

/-- How many zeros come first. -/
def leadingZeros (groups : List Nat) : Nat := (groups.takeWhile (· == 0)).length

/-- Start and length of the first of the longest runs of zeros; `index` counts the groups before. -/
def longestZeros : (index : Nat) → List Nat → Nat × Nat
  | index, [] => (index, 0)
  | index, g :: groups =>
    let here := leadingZeros (g :: groups)
    let later := longestZeros (index + 1) groups
    if later.2 ≤ here then (index, here) else later

/-- Groups with colons between them. -/
def joined (groups : List Nat) : String :=
  ":".intercalate (groups.map fun g => String.ofList (Nat.toDigits 16 g))

/-- Eight groups as text; two colons stand for the first of the longest runs of zeros. -/
def groupsText (groups : List Nat) : List Char :=
  let (start, count) := longestZeros 0 groups
  (if count < 2 then joined groups
  else joined (groups.take start) ++ "::" ++ joined (groups.drop (start + count))).toList

/-! ### Names -/

/-- A label in ASCII. -/
def asciiLabel (label : List Char) : List Char :=
  if label.all (·.toNat < 128) then label else "xn--".toList ++ Punycode.encode label

/-- A name in lower case and in ASCII. -/
def ascii (name : List Char) : List Char :=
  (".".intercalate ((splitAt '.' (toLowerChars name)).map fun label =>
    String.ofList (asciiLabel label))).toList

end LoginGate.Host
