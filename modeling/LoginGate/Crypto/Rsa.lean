import LoginGate.Crypto.Sha2

/-!
# RSA signatures

A signature to the power of the public exponent is a block that holds the hash of the message: as it
is, after a padding that is always the same, or mixed with a salt under a mask.

## Main definitions

* `Rsa.powMod` : powers modulo a number.
* `Rsa.verify` : whether a signature with the constant padding is that of a message.
* `Rsa.verifySalted` : whether a signature with a salt is that of a message.
-/

namespace LoginGate.Rsa

/-- `base ^ exponent` modulo `modulus`. -/
def powMod (base exponent modulus : Nat) : Nat :=
  if exponent = 0 then 1 % modulus
  else
    let half := powMod (base * base % modulus) (exponent / 2) modulus
    if exponent % 2 = 0 then half else half * base % modulus
termination_by exponent
decreasing_by omega

/-- A hash, with the bytes that name it in a signed block. -/
structure Digest where
  name : Bytes
  hash : Bytes → Bytes

/-- The bytes that name a hash of `size` bytes, number `id` among the hashes of its family. -/
def digestName (size id : UInt8) : Bytes :=
  [0x30, 0x11 + size, 0x30, 0x0D, 0x06, 0x09, 0x60, 0x86, 0x48, 0x01, 0x65, 0x03, 0x04, 0x02, id,
    0x05, 0x00, 0x04, size]

def sha256 : Digest := ⟨digestName 32 1, Sha2.sha256⟩

def sha384 : Digest := ⟨digestName 48 2, Sha2.sha384⟩

def sha512 : Digest := ⟨digestName 64 3, Sha2.sha512⟩

/-- A public key. -/
structure PublicKey where
  modulus : Nat
  exponent : Nat
  deriving DecidableEq, Repr

/-- Bytes that a number takes. -/
def byteLength (n : Nat) : Nat := if n = 0 then 0 else Nat.log2 n / 8 + 1

/-- Whether a key is one to compute with: odd, and not too long. -/
def PublicKey.isWithinLimits (key : PublicKey) : Bool :=
  key.modulus % 2 = 1 && Nat.log2 key.modulus < 16384 &&
    (Nat.log2 key.modulus < 3072 || Nat.log2 key.exponent < 64)

/-- The block of `size` bytes that a signature of a message hides. -/
def block? (size : Nat) (digest : Digest) (message : Bytes) : Option Bytes :=
  let content := digest.name ++ digest.hash message
  if size < content.length + 11 then none
  else some (0x00 :: 0x01 :: List.replicate (size - 3 - content.length) 0xFF ++ 0x00 :: content)

/-- Whether a signature with the constant padding is that of a message. -/
def verify (digest : Digest) (key : PublicKey) (message signature : Bytes) : Bool :=
  let size := byteLength key.modulus
  let s := signature.toNatBE
  key.isWithinLimits && signature.length = size && s < key.modulus &&
    block? size digest message =
      some (Bytes.ofNatBE size (powMod s key.exponent key.modulus))

/-! ### Signatures with a salt -/

/-- The mask of `size` bytes that grows out of a seed as long as a hash. -/
def mask (hash : Bytes → Bytes) (seed : Bytes) (size : Nat) : Bytes :=
  ((List.range (size / seed.length + 1)).flatMap fun counter =>
    hash (seed ++ Bytes.ofNatBE 4 counter)).take size

/-- Whether a block of `bits` bits hides a message with a salt as long as the hash. -/
def isSaltedBlock (hash : Bytes → Bytes) (bits : Nat) (message block : Bytes) : Bool :=
  let digest := hash message
  let width := block.length - digest.length - 1
  let masked := block.take width
  let seed := (block.drop width).take digest.length
  let unused := 8 * block.length - bits
  let content := Bytes.toNatBE (Bytes.xor masked (mask hash seed width)) %
    Nat.pow 2 (8 * width - unused)
  let salt := (Bytes.ofNatBE width content).drop (width - digest.length)
  2 * digest.length + 2 ≤ block.length && block.getLast? = some 0xBC &&
    Bytes.toNatBE masked < Nat.pow 2 (8 * width - unused) &&
    content / Nat.pow 2 (8 * digest.length) = 1 &&
    hash (List.replicate 8 0 ++ digest ++ salt) = seed

/-- Whether a signature with a salt is that of a message. -/
def verifySalted (hash : Bytes → Bytes) (key : PublicKey) (message signature : Bytes) : Bool :=
  let bits := Nat.log2 key.modulus
  let size := (bits + 7) / 8
  let s := signature.toNatBE
  let m := powMod s key.exponent key.modulus
  key.isWithinLimits && signature.length = byteLength key.modulus && s < key.modulus &&
    m < Nat.pow 2 (8 * size) && isSaltedBlock hash bits message (Bytes.ofNatBE size m)

end LoginGate.Rsa
