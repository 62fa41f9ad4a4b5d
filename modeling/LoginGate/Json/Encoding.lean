import LoginGate.Json.Parser
import LoginGate.Text.Utf8

/-!
# JSON documents in any Unicode encoding

The encoding of a document shows in its first bytes: in a mark, or in the zeros that go with ASCII
characters.  A surrogate may be encoded as if it were a character, and stays a surrogate.

## Main definitions

* `Json.Encoding.detect` : the encoding of a document.
* `Json.Encoding.symbols?` : the symbols of a document.
* `Json.ofBytes` : the value of a document.
-/

namespace LoginGate.Json

/-- The encodings of documents. -/
inductive Encoding where
  | utf8
  | utf16 (bigEndian : Bool)
  | utf32 (bigEndian : Bool)
  deriving DecidableEq, Repr

namespace Encoding

/-- The encoding of a document, and the document without its mark. -/
def detect : Bytes → Encoding × Bytes
  | 0x00 :: 0x00 :: 0xFE :: 0xFF :: rest => (.utf32 true, rest)
  | 0xFF :: 0xFE :: 0x00 :: 0x00 :: rest => (.utf32 false, rest)
  | 0xFE :: 0xFF :: rest => (.utf16 true, rest)
  | 0xFF :: 0xFE :: rest => (.utf16 false, rest)
  | 0xEF :: 0xBB :: 0xBF :: rest => (.utf8, rest)
  | a :: b :: c :: d :: rest =>
    let bytes := a :: b :: c :: d :: rest
    if a = 0 then (if b = 0 then .utf32 true else .utf16 true, bytes)
    else if b = 0 then (if c = 0 && d = 0 then .utf32 false else .utf16 false, bytes)
    else (.utf8, bytes)
  | [a, b] =>
    if a = 0 then (.utf16 true, [a, b])
    else if b = 0 then (.utf16 false, [a, b])
    else (.utf8, [a, b])
  | bytes => (.utf8, bytes)

/-- The symbols of UTF-8 in which surrogates may be encoded, by three bytes each.  `held` are the
bytes since the last of them, backwards. -/
def symbols8? (held : Bytes) : Bytes → Option (List Symbol)
  | [] => (Utf8.decode? held.reverse).map (symbols ·.toList)
  | 0xED :: b :: c :: rest =>
    if 0xA0 ≤ b && b ≤ 0xBF && 0x80 ≤ c && c ≤ 0xBF then do
      let before ← Utf8.decode? held.reverse
      let after ← symbols8? [] rest
      pure (symbols before.toList ++
        .surrogate (0xD000 + (b.toNat - 0x80) * 64 + (c.toNat - 0x80)) :: after)
    else symbols8? (0xED :: held) (b :: c :: rest)
  | b :: rest => symbols8? (b :: held) rest

/-- The symbol of a code that is a character or a surrogate. -/
def symbol (code : Nat) : Symbol :=
  if code.isValidChar then .char (Char.ofNat code) else .surrogate code

/-- Two bytes as a number. -/
def unit (bigEndian : Bool) (a b : UInt8) : Nat :=
  if bigEndian then a.toNat * 256 + b.toNat else b.toNat * 256 + a.toNat

/-- The units of UTF-16. -/
def units? (bigEndian : Bool) : Bytes → Option (List Nat)
  | [] => some []
  | [_] => none
  | a :: b :: rest => (units? bigEndian rest).map (unit bigEndian a b :: ·)

/-- The symbols of units, one for both halves of a pair. -/
def symbolsOfUnits : List Nat → List Symbol
  | [] => []
  | n :: m :: rest =>
    if isHighSurrogate n && isLowSurrogate m then
      .char (Char.ofNat (pairCode n m)) :: symbolsOfUnits rest
    else symbol n :: symbolsOfUnits (m :: rest)
  | [n] => [symbol n]

/-- The symbols of UTF-32. -/
def symbols32? (bigEndian : Bool) : Bytes → Option (List Symbol)
  | [] => some []
  | a :: b :: c :: d :: rest =>
    let code :=
      if bigEndian then unit true a b * 65536 + unit true c d
      else unit false c d * 65536 + unit false a b
    if 0x110000 ≤ code then none
    else (symbols32? bigEndian rest).map (symbol code :: ·)
  | _ => none

/-- The symbols of a document. -/
def symbols? (bytes : Bytes) : Option (List Symbol) :=
  match detect bytes with
  | (.utf8, rest) => symbols8? [] rest
  | (.utf16 bigEndian, rest) => (units? bigEndian rest).map symbolsOfUnits
  | (.utf32 bigEndian, rest) => symbols32? bigEndian rest

end Encoding

/-- The value of a document in which at most `depth` arrays and objects stand inside each other. -/
def ofBytes (depth : Nat) (bytes : Bytes) : Except ReadFailure Json := do
  let symbols ← found (Encoding.symbols? bytes)
  parseSymbols ⟨depth, true⟩ symbols

end LoginGate.Json
