import LoginGate.Bytes

/-!
# The cyclic redundancy check of gzip

## Main definitions

* `crc32` : the check value of a byte string.
-/

namespace LoginGate

/-- Divides by the generator, one bit a step. -/
def Crc32.divide : (bits : Nat) → UInt32 → UInt32
  | 0, r => r
  | bits + 1, r => divide bits (if r &&& 1 = 1 then (r >>> 1) ^^^ 0xEDB88320 else r >>> 1)

/-- The remainder after one more byte. -/
def Crc32.step (r : UInt32) (b : UInt8) : UInt32 := divide 8 (r ^^^ b.toUInt32)

/-- The check value of a byte string. -/
def crc32 (bytes : Bytes) : UInt32 := (bytes.foldl Crc32.step 0xFFFFFFFF) ^^^ 0xFFFFFFFF

end LoginGate
