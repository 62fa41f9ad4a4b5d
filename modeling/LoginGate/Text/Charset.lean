import LoginGate.Text.Blank
import LoginGate.Text.CodePage
import LoginGate.Text.LowerCase
import LoginGate.Text.Utf8
import LoginGate.Url.Punycode

/-!
# Character encodings of messages

Most encodings have a text for any bytes, in which U+FFFD stands for what is malformed.  Those of
units without an order need a mark at the start, and some that a message may name are no encodings
of text at all.

## Main definitions

* `Charset` : an encoding.
* `Charset.named?` : the encoding of a name.
* `Charset.decode?` : the text of bytes, if the encoding has one for them.
* `Charset.ofContentType` : the encoding that a content type names, or UTF-8.
-/

namespace LoginGate

/-- A character encoding. -/
inductive Charset where
  | utf8
  /-- UTF-8 in which a mark at the start does not belong to the text. -/
  | utf8Marked
  | ascii
  | latin1
  /-- One byte a character, with these characters in the upper half. -/
  | page (upper : Array Char)
  /-- Units of two bytes, in a given order or in that of a mark at the start. -/
  | utf16 (bigEndian : Option Bool)
  /-- Units of four bytes, in a given order or in that of a mark at the start. -/
  | utf32 (bigEndian : Option Bool)
  /-- Letters and digits. -/
  | punycode
  /-- An encoding of something else than text. -/
  | noText

namespace Charset

/-- What stands for a malformed piece. -/
def replacement : Char := '\uFFFD'

/-- A unit of bytes as a number. -/
def unitValue (bigEndian : Bool) (bytes : Bytes) : Nat :=
  if bigEndian then bytes.toNatBE else bytes.toNatLE

/-- Whether a unit is the first half of a character. -/
def isHigh (n : Nat) : Bool := 0xD800 ≤ n && n < 0xDC00

/-- Whether a unit is the second half of a character. -/
def isLow (n : Nat) : Bool := 0xDC00 ≤ n && n < 0xE000

/-- The character of a unit by itself. -/
def unitChar (n : Nat) : Char := if isLow n then replacement else Char.ofNat n

/-- The characters of units of two bytes; `half` is the first half of a character. -/
def chars16 (bigEndian : Bool) : (half : Option Nat) → Bytes → List Char
  | none, [] => []
  | some _, [] => [replacement]
  | _, [_] => [replacement]
  | half, a :: b :: rest =>
    let n := unitValue bigEndian [a, b]
    match half with
    | none =>
      if isHigh n then chars16 bigEndian (some n) rest
      else unitChar n :: chars16 bigEndian none rest
    | some m =>
      if isLow n then
        Char.ofNat (0x10000 + (m - 0xD800) * 0x400 + (n - 0xDC00)) :: chars16 bigEndian none rest
      else if isHigh n then replacement :: chars16 bigEndian (some n) rest
      else replacement :: unitChar n :: chars16 bigEndian none rest

/-- The characters of units of four bytes. -/
def chars32 (bigEndian : Bool) : Bytes → List Char
  | [] => []
  | a :: b :: c :: d :: rest =>
    let n := unitValue bigEndian [a, b, c, d]
    (if n.isValidChar then Char.ofNat n else replacement) :: chars32 bigEndian rest
  | _ => [replacement]

/-- The order of bytes that a mark of `width` bytes at the start tells. -/
def mark? (width : Nat) (bytes : Bytes) : Option Bool :=
  if bytes.take width = Bytes.ofNatLE width 0xFEFF then some false
  else if bytes.take width = Bytes.ofNatBE width 0xFEFF then some true
  else none

/-- The text of units of `width` bytes after the mark at their start.  Without a mark there is none,
unless the bytes are too few for a unit. -/
def marked? (width : Nat) (chars : Bool → Bytes → List Char) (bytes : Bytes) : Option String :=
  match mark? width bytes with
  | some bigEndian => some (String.ofList (chars bigEndian (bytes.drop width)))
  | none => if bytes.length < width then some (String.ofList (chars false bytes)) else none

/-- The mark at the start of UTF-8. -/
def utf8Mark : Bytes := [0xEF, 0xBB, 0xBF]

/-- The text of UTF-8 after the mark at its start; a part of the mark is nothing by itself. -/
def decodeMarked (bytes : Bytes) : String :=
  if bytes.isPrefixOf utf8Mark then ""
  else Utf8.decodeLossy (if utf8Mark.isPrefixOf bytes then bytes.drop 3 else bytes)

/-- An ASCII character, or U+FFFD. -/
def asciiChar (b : UInt8) : Char := if b < 0x80 then Char.ofNat b.toNat else replacement

/-- The text of letters and digits.  Those behind the last hyphen have to be ASCII. -/
def decodePunycode? (bytes : Bytes) : Option String :=
  let digits := (bytes.reverse.takeWhile (· ≠ 0x2D)).reverse
  let base := bytes.take (bytes.length - digits.length - 1)
  if digits.all (· < 0x80) then
    some (String.ofList (Punycode.insertAll digits.length true 128 0 72 (base.map asciiChar)
      (digits.map asciiChar)))
  else none

/-- The text of bytes, if the encoding has one for them. -/
def decode? (charset : Charset) (bytes : Bytes) : Option String :=
  match charset with
  | .utf8 => some (Utf8.decodeLossy bytes)
  | .utf8Marked => some (decodeMarked bytes)
  | .ascii => some (String.ofList (bytes.map asciiChar))
  | .latin1 => some (String.ofList (bytes.map fun b => Char.ofNat b.toNat))
  | .page upper =>
    some (String.ofList (bytes.map fun b =>
      if b < 0x80 then Char.ofNat b.toNat else upper.getD (b.toNat - 128) replacement))
  | .utf16 (some bigEndian) => some (String.ofList (chars16 bigEndian none bytes))
  | .utf16 none => marked? 2 (chars16 · none ·) bytes
  | .utf32 (some bigEndian) => some (String.ofList (chars32 bigEndian bytes))
  | .utf32 none => marked? 4 chars32 bytes
  | .punycode => decodePunycode? bytes
  | .noText => none

/-- A name in lower case, with one underscore for every run of punctuation inside it. -/
def normalName (name : String) : String :=
  "_".intercalate ((runsOf (fun c => !(c.isAlphanum || c = '.')) (toLowerChars name.toList)).map
    String.ofList)

/-- The encoding of a name. -/
def named? (name : String) : Option Charset :=
  match normalName name with
  | "utf_8" | "utf8" | "u8" | "utf" | "cp65001" | "utf8_ucs2" | "utf8_ucs4" => some .utf8
  | "utf_8_sig" => some .utf8Marked
  | "ascii" | "us_ascii" | "us" | "646" | "ansi_x3.4_1968" | "ansi_x3_4_1968" | "ansi_x3.4_1986"
  | "cp367" | "csascii" | "ibm367" | "iso646_us" | "iso_646.irv_1991" | "iso_ir_6" => some .ascii
  | "latin_1" | "latin1" | "latin" | "l1" | "iso_8859_1" | "iso8859_1" | "iso8859" | "8859"
  | "cp819" | "csisolatin1" | "ibm819" | "iso_8859_1_1987" | "iso_ir_100" => some .latin1
  | "utf_16" | "utf16" | "u16" => some (.utf16 none)
  | "utf_16_le" | "utf_16le" | "unicodelittleunmarked" => some (.utf16 (some false))
  | "utf_16_be" | "utf_16be" | "unicodebigunmarked" => some (.utf16 (some true))
  | "utf_32" | "utf32" | "u32" => some (.utf32 none)
  | "utf_32_le" | "utf_32le" => some (.utf32 (some false))
  | "utf_32_be" | "utf_32be" => some (.utf32 (some true))
  | "punycode" => some .punycode
  | "base64" | "base_64" | "base64_codec" | "bz2" | "bz2_codec" | "hex" | "hex_codec" | "idna"
  | "quopri" | "quoted_printable" | "quotedprintable" | "quopri_codec" | "rot13" | "rot_13"
  | "undefined" | "uu" | "uu_codec" | "zip" | "zlib" | "zlib_codec" => some .noText
  | other => (CodePage.named? other).map .page

/-! ### Content types -/

/-- The pieces between semicolons, of which those inside quotation marks do not count. -/
def parameters : (quoted escaped : Bool) → List Char → List (List Char)
  | _, _, [] => [[]]
  | quoted, escaped, c :: rest =>
    if c = ';' && !quoted then [] :: parameters false false rest
    else
      match parameters (if c = '"' && !escaped then !quoted else quoted) (c = '\\') rest with
      | [] => [[c]]
      | piece :: pieces => (c :: piece) :: pieces

/-- What a backslash stands for together with the next one. -/
def unescapeBackslashes : List Char → List Char
  | '\\' :: '\\' :: rest => '\\' :: unescapeBackslashes rest
  | c :: rest => c :: unescapeBackslashes rest
  | [] => []

/-- What a backslash stands for together with a quotation mark. -/
def unescapeQuotes : List Char → List Char
  | '\\' :: '"' :: rest => '"' :: unescapeQuotes rest
  | c :: rest => c :: unescapeQuotes rest
  | [] => []

/-- A value without the marks around it. -/
def unquote (cs : List Char) : List Char :=
  if 2 ≤ cs.length && cs.head? = some '"' && cs.getLast? = some '"' then
    unescapeQuotes (unescapeBackslashes (cs.drop 1).dropLast)
  else if 2 ≤ cs.length && cs.head? = some '<' && cs.getLast? = some '>' then (cs.drop 1).dropLast
  else cs

/-- The value of the parameter `charset` of a content type. -/
def parameter? (contentType : String) : Option String :=
  (parameters false false contentType.toList).findSome? fun piece =>
    let name := trimChars (piece.takeWhile (· ≠ '='))
    if toLowerChars name = "charset".toList then
      some (String.ofList (unquote (trimChars ((piece.dropWhile (· ≠ '=')).drop 1))))
    else none

/-- The encoding that a content type names in ASCII, or UTF-8. -/
def ofContentType (contentType : Option String) : Charset :=
  (((contentType.bind parameter?).filter (·.toList.all (·.toNat < 128))).bind named?).getD .utf8

end Charset

end LoginGate
