import LoginGate.Text.Blank
import LoginGate.Url.Percent

/-!
# Form encoding

Names with values as one text: pairs are joined by an ampersand, name and value by an equals sign.
Letters, digits and the characters `_ . - ~` stand for themselves, a blank is written as a plus
sign, and everything else in percent codes.

## Main definitions

* `Form.encode`, `Form.decode` : the two directions.
-/

namespace LoginGate.Form

/-- The characters that stand for themselves. -/
def isKept (c : Char) : Bool := c.isAlphanum || c = '_' || c = '.' || c = '-' || c = '~'

/-- A character in a name or value. -/
def encodeChar (c : Char) : List Char := if c = ' ' then ['+'] else Percent.encodeChar isKept c

/-- A name or a value. -/
def encodeText (text : String) : List Char := text.toList.flatMap encodeChar

/-- A name with its value. -/
def encodePair (pair : String × String) : List Char :=
  encodeText pair.1 ++ '=' :: encodeText pair.2

/-- Pairs joined by ampersands. -/
def encodeChars : List (String × String) → List Char
  | [] => []
  | [pair] => encodePair pair
  | pair :: pairs => encodePair pair ++ '&' :: encodeChars pairs

/-- Names with values as one text. -/
def encode (pairs : List (String × String)) : String := String.ofList (encodeChars pairs)

/-- The text that a name or a value stands for. -/
def decodeText (cs : List Char) : String :=
  String.ofList (Percent.decode (cs.map fun c => if c = '+' then ' ' else c))

/-- A name with its value, which is empty if there is no equals sign. -/
def decodePair (cs : List Char) : String × String :=
  (decodeText (cs.takeWhile (· ≠ '=')), decodeText ((cs.dropWhile (· ≠ '=')).drop 1))

/-- Names with values, blank ones included; nothing between two ampersands is no pair. -/
def decode (cs : List Char) : List (String × String) :=
  ((splitAt '&' cs).filter (!·.isEmpty)).map decodePair

end LoginGate.Form
