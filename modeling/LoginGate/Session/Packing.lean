import LoginGate.Base64.Basic
import LoginGate.Compression.Gzip

/-!
# Packed content

A session is packed before it is encrypted: compressed, and written in padded base64.

## Main definitions

* `Packing.pack`, `Packing.unpack?` : the two directions, on bytes.
-/

namespace LoginGate.Packing

/-- The bytes of an ASCII text. -/
def asciiBytes (cs : List Char) : Bytes := cs.map fun c => UInt8.ofNat c.toNat

/-- The characters with these codes. -/
def charsOf (bytes : Bytes) : List Char := bytes.map fun b => Char.ofNat b.toNat

/-- Compresses a content and writes it in padded base64. -/
def pack (content : Bytes) : Bytes :=
  asciiBytes (Base64.padded (Base64.encodeChars .standard (Gzip.compress content)))

/-- The content of a packed one. -/
def unpack? (packed : Bytes) : Option Bytes := do
  let compressed ← Base64.readStrict? (charsOf packed)
  Gzip.decompress? compressed

end LoginGate.Packing
