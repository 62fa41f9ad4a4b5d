import LoginGate.Json.Basic
import LoginGate.Numeral.Shortest
import LoginGate.Text.Quoted

/-!
# Writing JSON

## Main definitions

* `Json.Style` : the separators, and whether only ASCII is written.
* `Json.compact`, `Json.spacedAscii` : the two styles in use.
* `Json.quote` : a string between quotation marks.
* `Json.render` : a whole value.
-/

namespace LoginGate.Json

/-- How values are written. -/
structure Style where
  /-- What stands between two items or members. -/
  comma : String
  /-- What stands between a name and its value. -/
  colon : String
  /-- Whether every other character than those from blank to tilde is written as a code. -/
  ascii : Bool

/-- No blanks, and every character as itself where that is possible. -/
def compact : Style := ⟨",", ":", false⟩

/-- A blank after every separator, and nothing outside ASCII. -/
def spacedAscii : Style := ⟨", ", ": ", true⟩

/-- A code of four hexadecimal digits. -/
def unicodeEscape (code : Nat) : List Char := '\\' :: 'u' :: Quoted.hexCode 4 code

/-- A character as one code, or as the two codes of a surrogate pair. -/
def asciiEscape (code : Nat) : List Char :=
  if code < 0x10000 then unicodeEscape code
  else
    unicodeEscape (0xD800 + (code - 0x10000) / 0x400) ++
      unicodeEscape (0xDC00 + (code - 0x10000) % 0x400)

/-- A character inside a string. -/
def escapeChar (ascii : Bool) (c : Char) : List Char :=
  if c = '"' then ['\\', '"']
  else if c = '\\' then ['\\', '\\']
  else if c = '\n' then ['\\', 'n']
  else if c = '\r' then ['\\', 'r']
  else if c = '\t' then ['\\', 't']
  else if c.toNat = 8 then ['\\', 'b']
  else if c.toNat = 12 then ['\\', 'f']
  else if c.toNat < 0x20 then unicodeEscape c.toNat
  else if ascii && 0x7F ≤ c.toNat then asciiEscape c.toNat
  else [c]

/-- A string between quotation marks. -/
def quoteChars (ascii : Bool) (cs : List Char) : List Char :=
  '"' :: cs.flatMap (escapeChar ascii) ++ ['"']

/-- A string between quotation marks. -/
def quote (ascii : Bool) (text : String) : String :=
  String.ofList (quoteChars ascii text.toList)

/-- A string of codes some of which are unpaired surrogates. -/
def quoteCodes (codes : List Nat) : String :=
  String.ofList ('"' :: codes.flatMap (fun n =>
    if n.isValidChar then escapeChar true (Char.ofNat n) else unicodeEscape n) ++ ['"'])

mutual

/-- A value as text. -/
def render (style : Style) : Json → String
  | .null => "null"
  | .bool b => if b then "true" else "false"
  | .int i => toString i
  | .float .nan => "NaN"
  | .float (.infinite negative) => if negative then "-Infinity" else "Infinity"
  | .float x => x.text
  | .str s => quote style.ascii s
  | .unpaired codes => quoteCodes codes
  | .arr items => "[" ++ renderItems style items ++ "]"
  | .obj members => "\x7b" ++ renderMembers style members ++ "\x7d"

/-- The items of an array as text. -/
def renderItems (style : Style) : List Json → String
  | [] => ""
  | [item] => render style item
  | item :: items => render style item ++ style.comma ++ renderItems style items

/-- The members of an object as text. -/
def renderMembers (style : Style) : List (String × Json) → String
  | [] => ""
  | [(name, value)] => quote style.ascii name ++ style.colon ++ render style value
  | (name, value) :: members =>
    quote style.ascii name ++ style.colon ++ render style value ++ style.comma ++
      renderMembers style members

end

end LoginGate.Json
