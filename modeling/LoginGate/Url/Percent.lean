import LoginGate.Text.Utf8

/-!
# Percent coding

A character that an address may not hold is written as its UTF-8 bytes, each as a percent sign with
two hexadecimal digits.

## Main definitions

* `Percent.encode` : a text with the characters outside a class coded.
* `Percent.decodeBytes` : the bytes of an ASCII text with codes.
* `Percent.decode` : the characters of a text with codes.
-/

namespace LoginGate.Percent

/-- The upper-case hexadecimal digit of a number below sixteen. -/
def hexDigit (n : Nat) : Char :=
  if n < 10 then Char.ofNat (48 + n) else Char.ofNat (55 + n)

/-- The code of a byte. -/
def byteCode (b : UInt8) : List Char := ['%', hexDigit (b.toNat / 16), hexDigit (b.toNat % 16)]

/-- A character, or its code if it is not to be kept. -/
def encodeChar (keep : Char → Bool) (c : Char) : List Char :=
  if keep c then [c] else (Utf8.encode (String.singleton c)).flatMap byteCode

/-- A text with the characters outside a class coded. -/
def encode (keep : Char → Bool) (cs : List Char) : List Char := cs.flatMap (encodeChar keep)

/-- Whether two hexadecimal digits come first. -/
def isCodeStart : List Char → Bool
  | a :: b :: _ => (Bytes.hexValue? a).isSome && (Bytes.hexValue? b).isSome
  | _ => false

/-- The bytes of an ASCII text with codes; a percent sign that starts none stands for itself. -/
def decodeBytes : List Char → Bytes
  | [] => []
  | '%' :: a :: b :: rest =>
    match Bytes.hexValue? a, Bytes.hexValue? b with
    | some high, some low => UInt8.ofNat (high * 16 + low) :: decodeBytes rest
    | _, _ => 37 :: decodeBytes (a :: b :: rest)
  | c :: rest => UInt8.ofNat c.toNat :: decodeBytes rest

/-- Whether a character belongs to ASCII. -/
def isAscii (c : Char) : Bool := c.toNat < 128

theorem length_dropWhile_lt {α : Type} (p : α → Bool) (a : α) (as : List α) (h : p a = true) :
    ((a :: as).dropWhile p).length < (a :: as).length := by
  rw [List.dropWhile_cons_of_pos h]
  exact Nat.lt_succ_of_le (List.dropWhile_sublist p).length_le

/-- The characters of a text with codes: each run of ASCII characters is decoded by itself. -/
def decode : List Char → List Char
  | [] => []
  | c :: rest =>
    if _h : isAscii c then
      (Utf8.decodeLossy (decodeBytes ((c :: rest).takeWhile isAscii))).toList ++
        decode ((c :: rest).dropWhile isAscii)
    else c :: decode rest
termination_by cs => cs.length
decreasing_by
  · exact length_dropWhile_lt _ _ _ _h
  · simp

end LoginGate.Percent
