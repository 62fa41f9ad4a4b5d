import LoginGate.Compression.Crc32
import LoginGate.Compression.Inflate

/-!
# Gzip

Members with a header, deflated data, and a trailer of check value and length.

Reading takes any number of members, and zeros between them.  Writing makes one member of stored
blocks: how well the data are packed is left open by the format, and what matters here is that
reading gives them back.

## Main definitions

* `Gzip.decompress?` : the data of all members.
* `Gzip.compress` : one member.
-/

namespace LoginGate.Gzip

/-! ### Reading -/

/-- The bytes after the first `count` ones, if there are so many. -/
def skip? (count : Nat) (bytes : Bytes) : Option Bytes :=
  if count ≤ bytes.length then some (bytes.drop count) else none

/-- The bytes after a text that a zero ends. -/
def skipText (bytes : Bytes) : Bytes := (bytes.dropWhile (· != 0)).drop 1

/-- The bytes after an extra field with its length. -/
def skipExtra? : Bytes → Option Bytes
  | a :: b :: rest => skip? (a.toNat + 256 * b.toNat) rest
  | _ => none

/-- The bytes after a member's header, all optional fields passed over. -/
def skipHeader? : Bytes → Option Bytes
  | 0x1F :: 0x8B :: 8 :: flags :: rest => do
    let rest ← skip? 6 rest
    let rest ← if flags &&& 4 ≠ 0 then skipExtra? rest else some rest
    let rest := if flags &&& 8 ≠ 0 then skipText rest else rest
    let rest := if flags &&& 16 ≠ 0 then skipText rest else rest
    if flags &&& 2 ≠ 0 then skip? 2 rest else some rest
  | _ => none

/-- The bytes after a member's trailer, if check value and length are those of the data. -/
def skipTrailer? (data rest : Bytes) : Option Bytes :=
  if 8 ≤ rest.length ∧ rest.take 8 = Bytes.ofNatLE 4 (crc32 data).toNat ++
      Bytes.ofNatLE 4 data.length then some (rest.drop 8)
  else none

/-- The data of the first member, and what follows it. -/
def member? (bytes : Bytes) : Option (Bytes × Bytes) := do
  let rest ← skipHeader? bytes
  let (data, rest) ← Inflate.inflate? rest
  let rest ← skipTrailer? data rest
  pure (data, rest)

/-- The data of all members.  Every member takes a byte, so their number bounds the steps. -/
def members? : (steps : Nat) → Bytes → Option Bytes
  | _, [] => some []
  | 0, _ :: _ => none
  | steps + 1, b :: bytes => do
    let (data, rest) ← member? (b :: bytes)
    let later ← members? steps (rest.dropWhile (· == 0))
    pure (data ++ later)

/-- The data of all members. -/
def decompress? (bytes : Bytes) : Option Bytes := members? bytes.length bytes

/-! ### Writing -/

/-- The most bytes of a stored block. -/
def maxStored : Nat := 0xFFFF

/-- One stored block of at most `maxStored` bytes. -/
def storedBlock (last : Bool) (data : Bytes) : Bytes :=
  (if last then 1 else 0) :: Bytes.ofNatLE 2 data.length ++
    Bytes.ofNatLE 2 (0xFFFF - data.length) ++ data

/-- Data as stored blocks. -/
def storedBlocks (data : Bytes) : Bytes :=
  if data.length ≤ maxStored then storedBlock true data
  else storedBlock false (data.take maxStored) ++ storedBlocks (data.drop maxStored)
termination_by data.length
decreasing_by simp [maxStored] at *; omega

/-- A header without time and without optional fields. -/
def header : Bytes := [0x1F, 0x8B, 8, 0, 0, 0, 0, 0, 0, 0xFF]

/-- One member with these data. -/
def compress (data : Bytes) : Bytes :=
  header ++ storedBlocks data ++ Bytes.ofNatLE 4 (crc32 data).toNat ++ Bytes.ofNatLE 4 data.length

end LoginGate.Gzip
