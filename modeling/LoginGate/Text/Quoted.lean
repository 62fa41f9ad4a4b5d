import LoginGate.Bytes
import LoginGate.Text.Printable

/-!
# Texts quoted in messages

A text in a message stands between quotation marks: single ones, or double ones when it holds a
single and no double one. What cannot be shown is written as a code.

## Main definitions

* `Quoted.text` : one quoted text.
* `Quoted.list` : several, between square brackets.
-/

namespace LoginGate.Quoted

/-- The `width` low hexadecimal digits of `n`. -/
def hexCode (width n : Nat) : List Char :=
  (List.range width).reverse.map fun i => Bytes.hexDigit (n / Nat.pow 16 i % 16)

/-- A character between quotation marks `mark`. -/
def escapeChar (mark c : Char) : List Char :=
  if c = mark ∨ c = '\\' then ['\\', c]
  else if c = '\n' then ['\\', 'n']
  else if c = '\r' then ['\\', 'r']
  else if c = '\t' then ['\\', 't']
  else if isPrintable c then [c]
  else if c.toNat < 0x100 then '\\' :: 'x' :: hexCode 2 c.toNat
  else if c.toNat < 0x10000 then '\\' :: 'u' :: hexCode 4 c.toNat
  else '\\' :: 'U' :: hexCode 8 c.toNat

/-- The quotation mark that suits a text. -/
def mark (cs : List Char) : Char :=
  if '\'' ∈ cs ∧ '"' ∉ cs then '"' else '\''

/-- A text between quotation marks. -/
def chars (cs : List Char) : List Char :=
  mark cs :: cs.flatMap (escapeChar (mark cs)) ++ [mark cs]

/-- A text between quotation marks. -/
def text (s : String) : String := String.ofList (chars s.toList)

/-- Quoted texts between square brackets, separated by a comma and a blank. -/
def list (items : List String) : String :=
  "[" ++ ", ".intercalate (items.map text) ++ "]"

end LoginGate.Quoted
