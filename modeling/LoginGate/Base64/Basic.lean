import LoginGate.Bytes

/-!
# Base64

Groups of three bytes as four characters, in the standard and in the URL-safe alphabet.

Reading has two degrees of patience.  The *lenient* reader passes over characters outside the
alphabet and over misplaced padding, and stops at the padding that completes a group.  The *strict*
reader refuses both.  Neither looks at the spare bits of the last character; a canonical text is one
that encoding gives back.

## Main definitions

* `Base64.Alphabet` : the two alphabets.
* `Base64.encode`, `Base64.padded` : a text without padding, and a text with it.
* `Base64.readLenient?`, `Base64.readStrict?` : the two readers.
-/

namespace LoginGate.Base64

/-- The two alphabets differ in the characters for 62 and 63. -/
inductive Alphabet where
  /-- `+` and `/`. -/
  | standard
  /-- `-` and `_`. -/
  | urlSafe
  deriving DecidableEq, Repr

/-- The character for a number below 64. -/
def Alphabet.char (alphabet : Alphabet) (n : Nat) : Char :=
  if n < 26 then Char.ofNat (65 + n)
  else if n < 52 then Char.ofNat (71 + n)
  else if n < 62 then Char.ofNat (n - 4)
  else
    match alphabet, n with
    | .standard, 62 => '+'
    | .standard, _ => '/'
    | .urlSafe, 62 => '-'
    | .urlSafe, _ => '_'

/-- The number of a letter or digit. -/
def commonValue? (c : Char) : Option Nat :=
  if 'A' ≤ c ∧ c ≤ 'Z' then some (c.toNat - 65)
  else if 'a' ≤ c ∧ c ≤ 'z' then some (c.toNat - 71)
  else if '0' ≤ c ∧ c ≤ '9' then some (c.toNat + 4)
  else none

/-- The number of a character of the standard alphabet. -/
def standardValue? (c : Char) : Option Nat :=
  if c = '+' then some 62 else if c = '/' then some 63 else commonValue? c

/-- The number of a character of either alphabet. -/
def eitherValue? (c : Char) : Option Nat :=
  if c = '-' then some 62 else if c = '_' then some 63 else standardValue? c

/-! ### Writing -/

/-- Base64 characters without padding. -/
def encodeChars (alphabet : Alphabet) : Bytes → List Char
  | [] => []
  | [a] =>
    [alphabet.char (a.toNat / 4), alphabet.char (a.toNat % 4 * 16)]
  | [a, b] =>
    [alphabet.char (a.toNat / 4), alphabet.char (a.toNat % 4 * 16 + b.toNat / 16),
      alphabet.char (b.toNat % 16 * 4)]
  | a :: b :: c :: rest =>
    alphabet.char (a.toNat / 4) :: alphabet.char (a.toNat % 4 * 16 + b.toNat / 16) ::
      alphabet.char (b.toNat % 16 * 4 + c.toNat / 64) :: alphabet.char (c.toNat % 64) ::
      encodeChars alphabet rest

/-- The padding that completes a text of `length` characters to a multiple of four. -/
def padding (length : Nat) : List Char := List.replicate ((4 - length % 4) % 4) '='

/-- A text completed to a multiple of four characters. -/
def padded (cs : List Char) : List Char := cs ++ padding cs.length

/-- Base64 text without padding. -/
def encode (alphabet : Alphabet) (bytes : Bytes) : String :=
  String.ofList (encodeChars alphabet bytes)

/-! ### Reading -/

/-- The whole bytes in the numbers of an unfinished group. -/
def partialGroup : List Nat → Bytes
  | [x, y] => [UInt8.ofNat (x * 4 + y / 16)]
  | [x, y, z] => [UInt8.ofNat (x * 4 + y / 16), UInt8.ofNat (y % 16 * 16 + z / 4)]
  | _ => []

/-- The three bytes of a full group. -/
def fullGroup (x y z w : Nat) : Bytes :=
  [UInt8.ofNat (x * 4 + y / 16), UInt8.ofNat (y % 16 * 16 + z / 4), UInt8.ofNat (z % 4 * 64 + w)]

/-- Adds a number to an unfinished group: the bytes that are now complete, and what is held. -/
def extendGroup (held : List Nat) (w : Nat) : Bytes × List Nat :=
  match held with
  | [x, y, z] => (fullGroup x y z w, [])
  | _ => ([], held ++ [w])

/-- The lenient reader with the numbers `held` of the group at hand and `pads` paddings directly
before.  Padding completes a group of at least two; a text that ends within a group is refused. -/
def scanLenient (value? : Char → Option Nat) : (held : List Nat) → (pads : Nat) → List Char →
    Option Bytes
  | held, _, [] => if held.isEmpty then some [] else none
  | held, pads, c :: rest =>
    if c = '=' then
      if 2 ≤ held.length ∧ 4 ≤ held.length + (pads + 1) then some (partialGroup held)
      else scanLenient value? held (pads + 1) rest
    else
      match value? c with
      | none => scanLenient value? held pads rest
      | some w =>
        let (done, held) := extendGroup held w
        (scanLenient value? held 0 rest).map (done ++ ·)

/-- The strict reader, after `pads` paddings in all: nothing but the alphabet, and after padding
nothing but padding. -/
def scanStrict (value? : Char → Option Nat) : (held : List Nat) → (pads : Nat) → List Char →
    Option Bytes
  | held, _, [] => if held.isEmpty then some [] else none
  | held, pads, c :: rest =>
    if c = '=' then
      if 2 ≤ held.length ∧ 4 ≤ held.length + (pads + 1) then
        if rest.isEmpty then some (partialGroup held) else none
      else scanStrict value? held (pads + 1) rest
    else if pads ≠ 0 then none
    else
      match value? c with
      | none => none
      | some w =>
        let (done, held) := extendGroup held w
        (scanStrict value? held 0 rest).map (done ++ ·)

/-- Reads either alphabet and passes over all other characters. -/
def readLenient? (cs : List Char) : Option Bytes := scanLenient eitherValue? [] 0 cs

/-- Reads the standard alphabet with padding and nothing else. -/
def readStrict? (cs : List Char) : Option Bytes :=
  if cs.head? = some '=' then none else scanStrict standardValue? [] 0 cs

end LoginGate.Base64
