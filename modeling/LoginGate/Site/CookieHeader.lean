import LoginGate.Text.Blank
import LoginGate.Text.NameMap

/-!
# Cookies in requests

A request carries names and values of cookies.  A value with characters that may not stand there by
themselves is quoted, and such characters are written as octal codes.

## Main definitions

* `CookieHeader.quote`, `CookieHeader.unquote` : values.
* `CookieHeader.write`, `CookieHeader.read` : all cookies of a request.
-/

namespace LoginGate.CookieHeader

/-- The characters of names, and of values that need no quotation marks. -/
def isPlain (c : Char) : Bool := c.isAlphanum || "!#$%&'*+-.^_\x60|~:".toList.contains c

/-- The further characters that stand for themselves between quotation marks. -/
def isQuotable (c : Char) : Bool := isPlain c || " ()/<=>?@[]\x7b\x7d".toList.contains c

/-- An octal digit. -/
def octalDigit (n : Nat) : Char := Char.ofNat (48 + n % 8)

/-- A character between quotation marks.  Only those of one byte have codes. -/
def escapeChar (c : Char) : List Char :=
  if c = '"' || c = '\\' then ['\\', c]
  else if isQuotable c || 256 ≤ c.toNat then [c]
  else ['\\', octalDigit (c.toNat / 64), octalDigit (c.toNat / 8), octalDigit c.toNat]

/-- A value as it is written. -/
def quote (value : String) : String :=
  if !value.isEmpty && value.toList.all isPlain then value
  else String.ofList ('"' :: value.toList.flatMap escapeChar ++ ['"'])

/-- The value of an octal code, if three digits make one of a byte. -/
def octalValue? (a b c : Char) : Option Nat :=
  let isDigit (d last : Char) : Bool := '0' ≤ d && d ≤ last
  if isDigit a '3' && isDigit b '7' && isDigit c '7' then
    some ((a.toNat - 48) * 64 + (b.toNat - 48) * 8 + (c.toNat - 48))
  else none

/-- What characters between quotation marks stand for.  A backslash quotes the character behind it,
unless that one ends a line. -/
def unescape : List Char → List Char
  | '\\' :: a :: b :: c :: rest =>
    match octalValue? a b c with
    | some n => Char.ofNat n :: unescape rest
    | none =>
      if a = '\n' then '\\' :: unescape (a :: b :: c :: rest) else a :: unescape (b :: c :: rest)
  | '\\' :: a :: rest =>
    if a = '\n' then '\\' :: unescape (a :: rest) else a :: unescape rest
  | c :: rest => c :: unescape rest
  | [] => []

/-- What a written value stands for. -/
def unquote (value : List Char) : List Char :=
  if 2 ≤ value.length && value.head? = some '"' && value.getLast? = some '"' then
    unescape (value.drop 1).dropLast
  else value

/-- One cookie of a request; without equals sign it is a value without name. -/
def readPair (cs : List Char) : List Char × List Char :=
  if cs.contains '=' then
    (trimChars (cs.takeWhile (· ≠ '=')), trimChars ((cs.dropWhile (· ≠ '=')).drop 1))
  else ([], trimChars cs)

/-- The cookies of a request with several headers; the last one of a name counts. -/
def read (headers : List String) : NameMap :=
  let pairs := (splitAt ';' ("; ".intercalate headers).toList).map readPair
  .ofPairs ((pairs.filter fun (name, value) => !name.isEmpty || !value.isEmpty).map
    fun (name, value) => (String.ofList name, String.ofList (unquote value)))

/-- Names with written values as one header. -/
def write (pairs : NameMap) : String :=
  "; ".intercalate (pairs.map fun (name, value) => name ++ "=" ++ value)

end LoginGate.CookieHeader
