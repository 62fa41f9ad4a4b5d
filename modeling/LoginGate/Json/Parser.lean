import LoginGate.Json.Basic
import LoginGate.Bytes
import LoginGate.Numeral.Read

/-!
# Reading JSON

A recursive descent over the symbols of a document that hands on what it has not read.  Besides the
grammar of the format the names `NaN`, `Infinity` and `-Infinity` are numbers.

A symbol is a character, or a surrogate that the document holds as such; it may stand in a string
only.  A `Dialect` says how deep values may nest and whether a string may hold an unpaired
surrogate.  The descent ends at the first array or object that is too deep, whatever follows it.

## Main definitions

* `Json.Symbol` : what a document consists of.
* `Json.Dialect` : what is left to the reader's choice.
* `Json.ReadFailure` : why nothing is read.
* `Json.parseSymbols` : the value that a whole document stands for.
-/

namespace LoginGate.Json

/-- What a document consists of. -/
inductive Symbol where
  | char (c : Char)
  /-- A surrogate, which no text holds. -/
  | surrogate (code : Nat)
  deriving DecidableEq, Repr

/-- The character that a symbol is. -/
def Symbol.char? : Symbol → Option Char
  | .char c => some c
  | .surrogate _ => none

/-- Whether a symbol is a character of some kind. -/
def Symbol.isOf (kind : Char → Bool) : Symbol → Bool
  | .char c => kind c
  | .surrogate _ => false

/-- The code of a symbol. -/
def Symbol.code : Symbol → Nat
  | .char c => c.toNat
  | .surrogate code => code

/-- The reader's choices. -/
structure Dialect where
  /-- How many arrays and objects may stand inside each other. -/
  depth : Nat
  /-- Whether a string may hold an unpaired surrogate. -/
  unpairedSurrogates : Bool

/-- Why nothing is read. -/
inductive ReadFailure where
  /-- It does not keep to the grammar. -/
  | malformed
  /-- An array or an object stands inside too many others. -/
  | tooDeep
  deriving DecidableEq, Repr

/-- What is found, where nothing else would keep to the grammar. -/
def found {α : Type} : Option α → Except ReadFailure α
  | some a => .ok a
  | none => .error .malformed

/-- The four blanks of the format. -/
def isSpace (c : Char) : Bool := c = ' ' || c = '\n' || c = '\t' || c = '\r'

/-- Without the blanks at the start. -/
def skipSpace (cs : List Symbol) : List Symbol := cs.dropWhile (·.isOf isSpace)

/-! ### Strings -/

/-- The value of a hexadecimal digit. -/
def Symbol.hexValue? (symbol : Symbol) : Option Nat := symbol.char?.bind Bytes.hexValue?

/-- The value of four hexadecimal digits. -/
def hexQuad? (a b c d : Symbol) : Option Nat := do
  let a ← a.hexValue?
  let b ← b.hexValue?
  let c ← c.hexValue?
  let d ← d.hexValue?
  pure (((a * 16 + b) * 16 + c) * 16 + d)

/-- The character that a backslash and one more character stand for. -/
def shortEscape? (c : Char) : Option Nat :=
  match c with
  | '"' => some 0x22
  | '\\' => some 0x5C
  | '/' => some 0x2F
  | 'b' => some 8
  | 'f' => some 12
  | 'n' => some 10
  | 'r' => some 13
  | 't' => some 9
  | _ => none

/-- A piece of a string: a code, and whether it is written in hexadecimal digits. -/
structure Piece where
  code : Nat
  inDigits : Bool
  deriving DecidableEq, Repr

/-- The pieces of a string up to its closing quotation mark, and what follows the mark. -/
def stringPieces? : List Symbol → Option (List Piece × List Symbol)
  | [] => none
  | .char '"' :: rest => some ([], rest)
  | .char '\\' :: .char 'u' :: a :: b :: c :: d :: rest => do
    let code ← hexQuad? a b c d
    let (pieces, rest) ← stringPieces? rest
    pure (⟨code, true⟩ :: pieces, rest)
  | .char '\\' :: c :: rest => do
    let code ← c.char?.bind shortEscape?
    let (pieces, rest) ← stringPieces? rest
    pure (⟨code, false⟩ :: pieces, rest)
  | c :: rest => do
    if c.code < 0x20 then none
    else
      let (pieces, rest) ← stringPieces? rest
      pure (⟨c.code, false⟩ :: pieces, rest)

/-- Whether a code is the first half of a pair. -/
def isHighSurrogate (n : Nat) : Bool := 0xD800 ≤ n && n < 0xDC00

/-- Whether a code is the second half of a pair. -/
def isLowSurrogate (n : Nat) : Bool := 0xDC00 ≤ n && n < 0xE000

/-- The code of a pair. -/
def pairCode (high low : Nat) : Nat := 0x10000 + (high - 0xD800) * 0x400 + (low - 0xDC00)

/-- Whether two pieces are the halves of a pair: both are written in digits. -/
def Piece.arePair (first second : Piece) : Bool :=
  first.inDigits && second.inDigits && isHighSurrogate first.code && isLowSurrogate second.code

/-- The codes of pieces, one for both halves of a pair. -/
def joinPieces : List Piece → List Nat
  | [] => []
  | [piece] => [piece.code]
  | first :: second :: rest =>
    if first.arePair second then pairCode first.code second.code :: joinPieces rest
    else first.code :: joinPieces (second :: rest)

/-- The characters of codes none of which is a surrogate. -/
def chars? (codes : List Nat) : Option (List Char) :=
  codes.mapM fun n => if h : n.isValidChar then some (Char.ofNatAux n h) else none

/-- A string value from its codes. -/
def ofCodes? (unpairedSurrogates : Bool) (codes : List Nat) : Option Json :=
  match chars? codes with
  | some cs => some (.str (String.ofList cs))
  | none => if unpairedSurrogates then some (.unpaired codes) else none

/-- A member's name from its codes.  A name with an unpaired surrogate is no name that anything
asks for, so each of its surrogates is replaced. -/
def nameOfCodes? (unpairedSurrogates : Bool) (codes : List Nat) : Option String :=
  match chars? codes with
  | some cs => some (String.ofList cs)
  | none =>
    if unpairedSurrogates then
      some (String.ofList (codes.map fun n => if n.isValidChar then Char.ofNat n else '\uFFFD'))
    else none

/-! ### Numbers -/

/-- The digits and what follows them. -/
def spanDigits (cs : List Symbol) : List Char × List Symbol :=
  ((cs.takeWhile (·.isOf isAsciiDigit)).filterMap Symbol.char?,
    cs.dropWhile (·.isOf isAsciiDigit))

/-- Whether there is a minus sign at the start, and what follows a sign. -/
def takeSign : List Symbol → Bool × List Symbol
  | .char '-' :: rest => (true, rest)
  | .char '+' :: rest => (false, rest)
  | cs => (false, cs)

/-- A fraction: a point with digits, or nothing. -/
def fraction? : List Symbol → Option (List Char × List Symbol)
  | .char '.' :: rest =>
    let (ds, rest) := spanDigits rest
    if ds.isEmpty then none else some (ds, rest)
  | cs => some ([], cs)

/-- An exponent: its mark with a whole number, or nothing. -/
def exponent? : List Symbol → Option (Option Int × List Symbol)
  | .char c :: rest =>
    if c = 'e' ∨ c = 'E' then
      let (negative, rest) := takeSign rest
      let (ds, rest) := spanDigits rest
      if ds.isEmpty then none
      else some (some (Numeral.signed negative (Numeral.digitsValue ds)), rest)
    else some (none, .char c :: rest)
  | cs => some (none, cs)

/-- A number after its sign.  A whole number of too many digits is refused. -/
def unsigned? (negative : Bool) (cs : List Symbol) : Option (Json × List Symbol) := do
  let (whole, rest) := spanDigits cs
  if whole.isEmpty || (whole.head? = some '0' && whole.length ≠ 1) then none
  else
    let (fraction, rest) ← fraction? rest
    let (exponent, rest) ← exponent? rest
    if fraction.isEmpty && exponent.isNone then
      if Numeral.maxDigits < whole.length then none
      else some (.int (Numeral.signed negative (Numeral.digitsValue whole)), rest)
    else
      some (.float (.ofDecimal negative (Numeral.digitsValue (whole ++ fraction))
        (exponent.getD 0 - fraction.length)), rest)

/-- What follows a word at the start. -/
def afterWord? : (word : List Char) → List Symbol → Option (List Symbol)
  | [], rest => some rest
  | w :: ws, c :: rest => if .char w = c then afterWord? ws rest else none
  | _ :: _, [] => none

/-- A value that holds no other: a name, or a number. -/
def scalar? (cs : List Symbol) : Option (Json × List Symbol) :=
  match cs with
  | .char 'n' :: rest => (afterWord? ['u', 'l', 'l'] rest).map (.null, ·)
  | .char 't' :: rest => (afterWord? ['r', 'u', 'e'] rest).map (.bool true, ·)
  | .char 'f' :: rest => (afterWord? ['a', 'l', 's', 'e'] rest).map (.bool false, ·)
  | .char 'N' :: rest => (afterWord? ['a', 'N'] rest).map (.float .nan, ·)
  | .char 'I' :: rest => (afterWord? "nfinity".toList rest).map (.float (.infinite false), ·)
  | .char '-' :: .char 'I' :: rest =>
    (afterWord? "nfinity".toList rest).map (.float (.infinite true), ·)
  | .char '-' :: rest => unsigned? true rest
  | _ => unsigned? false cs

/-! ### Values -/

mutual

/-- A value at the start, blanks before it passed over. -/
def value (dialect : Dialect) :
    (depth : Nat) → List Symbol → Except ReadFailure (Json × List Symbol)
  | depth, cs =>
    match skipSpace cs with
    | .char '"' :: rest => do
      let (pieces, rest) ← found (stringPieces? rest)
      let json ← found (ofCodes? dialect.unpairedSurrogates (joinPieces pieces))
      return (json, rest)
    | .char '[' :: rest =>
      match depth with
      | 0 => .error .tooDeep
      | depth + 1 =>
        match skipSpace rest with
        | .char ']' :: rest => .ok (.arr [], rest)
        | _ => (items dialect depth rest.length rest).map fun (items, rest) => (.arr items, rest)
    | .char '{' :: rest =>
      match depth with
      | 0 => .error .tooDeep
      | depth + 1 =>
        match skipSpace rest with
        | .char '}' :: rest => .ok (.obj [], rest)
        | _ =>
          (members dialect depth rest.length rest).map fun (members, rest) => (.obj members, rest)
    | cs => found (scalar? cs)
termination_by depth => (depth, 0)

/-- The items of an array from the first one on, up to the closing bracket.  Every item takes at
least one symbol, so the length of the document bounds their number. -/
def items (dialect : Dialect) (depth : Nat) :
    (bound : Nat) → List Symbol → Except ReadFailure (List Json × List Symbol)
  | 0, _ => .error .malformed
  | bound + 1, cs => do
    let (item, rest) ← value dialect depth cs
    match skipSpace rest with
    | .char ',' :: rest =>
      let (items, rest) ← items dialect depth bound rest
      return (item :: items, rest)
    | .char ']' :: rest => return ([item], rest)
    | _ => .error .malformed
termination_by bound => (depth, bound + 1)

/-- The members of an object from the first one on, up to the closing brace. -/
def members (dialect : Dialect) (depth : Nat) :
    (bound : Nat) → List Symbol → Except ReadFailure (List (String × Json) × List Symbol)
  | 0, _ => .error .malformed
  | bound + 1, cs =>
    match skipSpace cs with
    | .char '"' :: rest => do
      let (pieces, rest) ← found (stringPieces? rest)
      let name ← found (nameOfCodes? dialect.unpairedSurrogates (joinPieces pieces))
      match skipSpace rest with
      | .char ':' :: rest =>
        let (value, rest) ← value dialect depth rest
        match skipSpace rest with
        | .char ',' :: rest =>
          let (members, rest) ← members dialect depth bound rest
          return ((name, value) :: members, rest)
        | .char '}' :: rest => return ([(name, value)], rest)
        | _ => .error .malformed
      | _ => .error .malformed
    | _ => .error .malformed
termination_by bound => (depth, bound + 1)

end

/-- The value that a whole document stands for, blanks around it allowed. -/
def parseSymbols (dialect : Dialect) (symbols : List Symbol) : Except ReadFailure Json := do
  let (json, rest) ← value dialect dialect.depth symbols
  if (skipSpace rest).isEmpty then .ok json else .error .malformed

/-- The symbols of a text. -/
def symbols (cs : List Char) : List Symbol := cs.map .char

/-- The value that a whole text stands for, blanks around it allowed. -/
def parse? (dialect : Dialect) (text : String) : Option Json :=
  (parseSymbols dialect (symbols text.toList)).toOption

end LoginGate.Json
