/-!
# Byte strings

Byte strings are lists, so that codecs recurse on them and keep the unread rest.

## Main definitions

* `Bytes` : a byte string.
* `Bytes.toHex`, `Bytes.ofHex?` : lower-case hexadecimal text.
* `Bytes.ofNatBE`, `Bytes.toNatBE`, `Bytes.ofNatLE`, `Bytes.toNatLE` : numbers of a fixed width.

## Main results

* `Bytes.xor_xor_cancel` : a key stream applied twice is no change.
-/

namespace LoginGate

/-- A byte string. -/
abbrev Bytes := List UInt8

namespace Bytes

/-! ### Hexadecimal text -/

/-- The lower-case hexadecimal digit of a number below sixteen. -/
def hexDigit (n : Nat) : Char :=
  if n < 10 then Char.ofNat (48 + n) else Char.ofNat (87 + n)

/-- The value of a hexadecimal digit of either case. -/
def hexValue? (c : Char) : Option Nat :=
  if '0' ≤ c ∧ c ≤ '9' then some (c.toNat - 48)
  else if 'a' ≤ c ∧ c ≤ 'f' then some (c.toNat - 87)
  else if 'A' ≤ c ∧ c ≤ 'F' then some (c.toNat - 55)
  else none

/-- Two digits a byte. -/
def hexChars : Bytes → List Char
  | [] => []
  | b :: rest => hexDigit (b.toNat / 16) :: hexDigit (b.toNat % 16) :: hexChars rest

/-- Reads two digits a byte; an odd digit or another character is refused. -/
def ofHexChars? : List Char → Option Bytes
  | [] => some []
  | [_] => none
  | a :: b :: rest => do
    let hi ← hexValue? a
    let lo ← hexValue? b
    let tail ← ofHexChars? rest
    pure (UInt8.ofNat (hi * 16 + lo) :: tail)

/-- Hexadecimal text of a byte string. -/
def toHex (bytes : Bytes) : String := String.ofList (hexChars bytes)

/-- The byte string that a hexadecimal text stands for. -/
def ofHex? (text : String) : Option Bytes := ofHexChars? text.toList

/-! ### Numbers of a fixed width -/

/-- The `width` low bytes of `n`, least significant first. -/
def ofNatLE : (width n : Nat) → Bytes
  | 0, _ => []
  | width + 1, n => UInt8.ofNat n :: ofNatLE width (n / 256)

/-- The number whose bytes these are, least significant first. -/
def toNatLE : Bytes → Nat
  | [] => 0
  | b :: rest => b.toNat + 256 * toNatLE rest

/-- The `width` low bytes of `n`, most significant first. -/
def ofNatBE (width n : Nat) : Bytes := (ofNatLE width n).reverse

/-- The number whose bytes these are, most significant first. -/
def toNatBE (bytes : Bytes) : Nat := bytes.foldl (fun n b => n * 256 + b.toNat) 0

@[simp] theorem length_ofNatLE (width n : Nat) : (ofNatLE width n).length = width := by
  induction width generalizing n with
  | zero => rfl
  | succ width ih => simp [ofNatLE, ih]

@[simp] theorem length_ofNatBE (width n : Nat) : (ofNatBE width n).length = width := by
  simp [ofNatBE]

/-! ### Combination -/

/-- Bytewise exclusive or, as long as the shorter of the two. -/
def xor (a b : Bytes) : Bytes := List.zipWith (· ^^^ ·) a b

@[simp] theorem length_xor (a b : Bytes) : (xor a b).length = min a.length b.length := by
  simp [xor]

/-- A key stream applied twice is no change. -/
theorem xor_xor_cancel (a key : Bytes) (h : a.length ≤ key.length) :
    xor (xor a key) key = a := by
  induction a generalizing key with
  | nil => rfl
  | cons x a ih =>
    cases key with
    | nil => simp at h
    | cons k key =>
      simp only [xor, List.zipWith_cons_cons] at *
      rw [ih key (by simpa using h), UInt8.xor_assoc, UInt8.xor_self, UInt8.xor_zero]

end Bytes

end LoginGate
