import LoginGate.Bytes

/-!
# UTF-8 text

Encoding, strict decoding, and the decoding that replaces what is malformed.

## Main definitions

* `Utf8.encode`, `Utf8.decode?` : the two directions for well-formed text.
* `Utf8.decodeLossy` : every maximal malformed piece becomes U+FFFD.

## Main results

* `Utf8.decode?_encode` : what is written is read back.
-/

namespace LoginGate.Utf8

/-- The UTF-8 bytes of a text. -/
def encode (text : String) : Bytes := text.toUTF8.data.toList

/-- The text that these bytes encode, if they are well-formed. -/
def decode? (bytes : Bytes) : Option String := String.fromUTF8? ⟨bytes.toArray⟩

theorem decode?_encode (text : String) : decode? (encode text) = some text := by
  have h : (⟨(encode text).toArray⟩ : ByteArray) = text.toUTF8 := by simp [encode]
  rw [decode?, h]
  exact dif_pos text.isValidUTF8

/-- How many bytes follow a lead byte, and the least and the greatest value of the first of
them: none for a byte that cannot lead. -/
def lead? (b : UInt8) : Option (Nat × UInt8 × UInt8) :=
  if 0xC2 ≤ b ∧ b ≤ 0xDF then some (1, 0x80, 0xBF)
  else if b = 0xE0 then some (2, 0xA0, 0xBF)
  else if b = 0xED then some (2, 0x80, 0x9F)
  else if 0xE1 ≤ b ∧ b ≤ 0xEF then some (2, 0x80, 0xBF)
  else if b = 0xF0 then some (3, 0x90, 0xBF)
  else if 0xF1 ≤ b ∧ b ≤ 0xF3 then some (3, 0x80, 0xBF)
  else if b = 0xF4 then some (3, 0x80, 0x8F)
  else none

/-- The character whose lead byte has been read and of which `owed` bytes are still due: the code
point so far is `code`. A byte outside `low` to `high` ends the malformed piece before it. -/
def continueLossy : (owed : Nat) → (code : Nat) → (low high : UInt8) → Bytes → Char × Bytes
  | 0, code, _, _, rest => (Char.ofNat code, rest)
  | _ + 1, _, _, _, [] => ('\uFFFD', [])
  | owed + 1, code, low, high, b :: rest =>
    if low ≤ b ∧ b ≤ high then
      continueLossy owed (code * 64 + (b.toNat - 0x80)) 0x80 0xBF rest
    else ('\uFFFD', b :: rest)

theorem length_continueLossy (owed code : Nat) (low high : UInt8) (bytes : Bytes) :
    (continueLossy owed code low high bytes).2.length ≤ bytes.length := by
  induction bytes generalizing owed code low high with
  | nil => cases owed <;> simp [continueLossy]
  | cons b rest ih =>
    cases owed with
    | zero => simp [continueLossy]
    | succ owed =>
      simp only [continueLossy]
      split
      · exact Nat.le_succ_of_le (ih ..)
      · simp

/-- The bits of the code point that the lead byte of an `owed + 1` byte character carries. -/
def leadBits (owed : Nat) (b : UInt8) : Nat :=
  match owed with
  | 1 => b.toNat - 0xC0
  | 2 => b.toNat - 0xE0
  | _ => b.toNat - 0xF0

/-- Decodes with U+FFFD for every maximal malformed piece. -/
def lossyChars : Bytes → List Char
  | [] => []
  | b :: rest =>
    if b < 0x80 then Char.ofNat b.toNat :: lossyChars rest
    else
      match lead? b with
      | none => '\uFFFD' :: lossyChars rest
      | some (owed, low, high) =>
        (continueLossy owed (leadBits owed b) low high rest).1 ::
          lossyChars (continueLossy owed (leadBits owed b) low high rest).2
termination_by bytes => bytes.length
decreasing_by
  · simp
  · simp
  · exact Nat.lt_succ_of_le (length_continueLossy ..)

/-- Decodes with U+FFFD for every maximal malformed piece; well-formed text is taken as it is. -/
def decodeLossy (bytes : Bytes) : String := (decode? bytes).getD (String.ofList (lossyChars bytes))

@[simp] theorem decodeLossy_encode (text : String) : decodeLossy (encode text) = text := by
  simp [decodeLossy, decode?_encode]

end LoginGate.Utf8
