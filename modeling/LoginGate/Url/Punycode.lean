/-!
# Punycode

Labels of host names with characters outside ASCII, written in letters and digits: first the ASCII
characters, then the others in the order of their codes, each as the distance from the one before.

## Main definitions

* `Punycode.encode` : the letters and digits of a label.
* `Punycode.insertAll` : a label from its ASCII characters and the distances of the others.
-/

namespace LoginGate.Punycode

/-- The letter or digit of a number below 36. -/
def digit (n : Nat) : Char := if n < 26 then Char.ofNat (97 + n) else Char.ofNat (22 + n)

/-- The least number that is not a last digit at a place. -/
def threshold (bias place : Nat) : Nat :=
  if place ≤ bias then 1 else if bias + 26 ≤ place then 26 else place - bias

/-- A distance in digits of growing weight, least significant first. -/
def digits (bias : Nat) : (steps place q : Nat) → List Char
  | 0, _, _ => []
  | steps + 1, place, q =>
    let t := threshold bias place
    if q < t then [digit q]
    else digit (t + (q - t) % (36 - t)) :: digits bias steps (place + 36) ((q - t) / (36 - t))

/-- How often a distance can be divided before it is small, with the rest. -/
def divide : (steps delta k : Nat) → Nat × Nat
  | 0, delta, k => (delta, k)
  | steps + 1, delta, k => if 455 < delta then divide steps (delta / 35) (k + 36) else (delta, k)

/-- The bias after a distance, when `count` characters have been written. -/
def adapt (delta count : Nat) (first : Bool) : Nat :=
  let delta := if first then delta / 700 else delta / 2
  let (delta, k) := divide 64 (delta + delta / count) 0
  k + 36 * delta / (delta + 38)

/-- What has been written, with the distance from the last character. -/
structure Progress where
  written : List Char
  delta : Nat
  bias : Nat
  count : Nat

/-- Passes over one character of the label while those of code `code` are written. -/
def visit (basic code : Nat) (progress : Progress) (c : Char) : Progress :=
  if c.toNat < code then { progress with delta := progress.delta + 1 }
  else if c.toNat = code then
    { written := progress.written ++ digits progress.bias 64 36 progress.delta
      delta := 0
      bias := adapt progress.delta (progress.count + 1) (progress.count == basic)
      count := progress.count + 1 }
  else progress

/-- Writes the characters of the given codes, which increase; `next` is the least code not yet
passed. -/
def writeCodes (label : List Char) (basic : Nat) : List Nat → (next : Nat) → Progress → Progress
  | [], _, progress => progress
  | code :: codes, next, progress =>
    let delta := progress.delta + (code - next) * (progress.count + 1)
    let progress := label.foldl (visit basic code) { progress with delta := delta }
    writeCodes label basic codes (code + 1) { progress with delta := progress.delta + 1 }

/-- Puts a number into its place in an increasing list. -/
def insertSorted (n : Nat) : List Nat → List Nat
  | [] => [n]
  | m :: rest =>
    if n < m then n :: m :: rest
    else if n = m then m :: rest
    else m :: insertSorted n rest

/-- The letters and digits of a label. -/
def encode (label : List Char) : List Char :=
  let ascii := label.filter (·.toNat < 128)
  let codes := (label.filter (128 ≤ ·.toNat)).foldr (fun c => insertSorted c.toNat) []
  let start := if ascii.isEmpty then [] else ascii ++ ['-']
  (writeCodes label ascii.length codes 128 ⟨start, 0, 72, ascii.length⟩).written

/-! ### Reading -/

/-- The number of a letter of either case or a digit. -/
def value? (c : Char) : Option Nat :=
  if 'a' ≤ c ∧ c ≤ 'z' then some (c.toNat - 97)
  else if 'A' ≤ c ∧ c ≤ 'Z' then some (c.toNat - 65)
  else if '0' ≤ c ∧ c ≤ '9' then some (c.toNat - 22)
  else none

/-- The distance that some letters and digits start with, and what follows it. -/
def distance? (bias : Nat) : (place weight sum : Nat) → List Char → Option (Nat × List Char)
  | _, _, _, [] => none
  | place, weight, sum, c :: rest => do
    let d ← value? c
    let t := threshold bias place
    if d < t then some (sum + d * weight, rest)
    else distance? bias (place + 36) (weight * (36 - t)) (sum + d * weight) rest

/-- The character of a code; U+FFFD stands for a surrogate. -/
def charOf (code : Nat) : Char := if code.isValidChar then Char.ofNat code else '\uFFFD'

/-- A label from the characters it has so far and the distances of the others, up to the first that
is none.  A question mark stands for a code beyond the last one. -/
def insertAll : (steps : Nat) → (first : Bool) → (code place bias : Nat) → (label : List Char) →
    List Char → List Char
  | 0, _, _, _, _, label, _ => label
  | steps + 1, first, code, place, bias, label, cs =>
    match distance? bias 36 1 0 cs with
    | none => label
    | some (delta, rest) =>
      let room := label.length + 1
      let code := code + (place + delta) / room
      let code := if 0x10FFFF < code then '?'.toNat else code
      let place := (place + delta) % room
      insertAll steps false code (place + 1) (adapt delta room first)
        (label.take place ++ charOf code :: label.drop place) rest

end LoginGate.Punycode
