import LoginGate.Bytes

/-!
# The SHA-2 hash functions

One construction over words of 32 or 64 bits.

## Main definitions

* `Sha2.Variant` : what the members of the family differ in.
* `Sha2.sha256`, `Sha2.sha384`, `Sha2.sha512` : the hash functions in use.
-/

namespace LoginGate.Sha2

/-- What the members of the family differ in. -/
structure Variant (W : Type) where
  /-- Bytes of a word. -/
  wordBytes : Nat
  /-- The word of some bytes, most significant first. -/
  ofBytes : Bytes → W
  /-- The bytes of a word, most significant first. -/
  toBytes : W → Bytes
  /-- Rotation to the right. -/
  rotate : W → Nat → W
  /-- Shift to the right. -/
  shift : W → Nat → W
  /-- The rotations of the two large sums, and the rotations and the shift of the two small ones. -/
  amounts : (Nat × Nat × Nat) × (Nat × Nat × Nat) × (Nat × Nat × Nat) × (Nat × Nat × Nat)
  /-- One constant a round. -/
  constants : List W
  /-- The state before the first block. -/
  initial : List W
  /-- Bytes of the result. -/
  size : Nat

/-- The eight working words. -/
structure State (W : Type) where
  a : W
  b : W
  c : W
  d : W
  e : W
  f : W
  g : W
  h : W

section

variable {W : Type} [Add W] [XorOp W] [AndOp W] [Complement W] [OfNat W 0]

/-- Exclusive or of three rotations. -/
def bigSum (v : Variant W) (r : Nat × Nat × Nat) (x : W) : W :=
  v.rotate x r.1 ^^^ v.rotate x r.2.1 ^^^ v.rotate x r.2.2

/-- Exclusive or of two rotations and a shift. -/
def smallSum (v : Variant W) (r : Nat × Nat × Nat) (x : W) : W :=
  v.rotate x r.1 ^^^ v.rotate x r.2.1 ^^^ v.shift x r.2.2

/-- The words of a block followed by `more` further ones, each made of four of the sixteen words
before it. -/
def schedule (v : Variant W) : (more : Nat) → List W → List W
  | 0, window => window
  | _ + 1, [] => []
  | more + 1, w :: rest =>
    let next := w + smallSum v v.amounts.2.2.1 (rest.getD 0 0) + rest.getD 8 0 +
      smallSum v v.amounts.2.2.2 (rest.getD 13 0)
    w :: schedule v more (rest ++ [next])

/-- One round. -/
def round (v : Variant W) (s : State W) (step : W × W) : State W :=
  let choice := (s.e &&& s.f) ^^^ (~~~s.e &&& s.g)
  let majority := (s.a &&& s.b) ^^^ (s.a &&& s.c) ^^^ (s.b &&& s.c)
  let t₁ := s.h + bigSum v v.amounts.2.1 s.e + choice + step.1 + step.2
  let t₂ := bigSum v v.amounts.1 s.a + majority
  ⟨t₁ + t₂, s.a, s.b, s.c, s.d + t₁, s.e, s.f, s.g⟩

/-- The words of a block. -/
def blockWords (v : Variant W) : (count : Nat) → Bytes → List W
  | 0, _ => []
  | count + 1, bytes => v.ofBytes (bytes.take v.wordBytes) ::
      blockWords v count (bytes.drop v.wordBytes)

/-- The state after one more block. -/
def compress (v : Variant W) (s : State W) (block : Bytes) : State W :=
  let words := schedule v (v.constants.length - 16) (blockWords v 16 block)
  let t := (v.constants.zip words).foldl (round v) s
  ⟨s.a + t.a, s.b + t.b, s.c + t.c, s.d + t.d, s.e + t.e, s.f + t.f, s.g + t.g, s.h + t.h⟩

/-- The message with a one bit, zeros, and its length in bits, up to a whole number of blocks. -/
def padded (v : Variant W) (message : Bytes) : Bytes :=
  let block := 16 * v.wordBytes
  let used := message.length + 1 + 2 * v.wordBytes
  message ++ 0x80 :: List.replicate ((block - used % block) % block) 0 ++
    Bytes.ofNatBE (2 * v.wordBytes) (8 * message.length)

/-- The state after `count` blocks. -/
def absorb (v : Variant W) : (count : Nat) → State W → Bytes → State W
  | 0, s, _ => s
  | count + 1, s, bytes =>
    absorb v count (compress v s (bytes.take (16 * v.wordBytes))) (bytes.drop (16 * v.wordBytes))

/-- The hash of a message. -/
def hash (v : Variant W) (message : Bytes) : Bytes :=
  let i (n : Nat) : W := v.initial.getD n 0
  let text := padded v message
  let s := absorb v (text.length / (16 * v.wordBytes)) ⟨i 0, i 1, i 2, i 3, i 4, i 5, i 6, i 7⟩ text
  ([s.a, s.b, s.c, s.d, s.e, s.f, s.g, s.h].flatMap v.toBytes).take v.size

end

/-- The member with words of 32 bits. -/
def variant256 : Variant UInt32 where
  wordBytes := 4
  ofBytes bytes := UInt32.ofNat (Bytes.toNatBE bytes)
  toBytes w := Bytes.ofNatBE 4 w.toNat
  rotate x n := x >>> UInt32.ofNat n ||| x <<< UInt32.ofNat (32 - n)
  shift x n := x >>> UInt32.ofNat n
  amounts := ((2, 13, 22), (6, 11, 25), (7, 18, 3), (17, 19, 10))
  constants := [
    0x428a2f98, 0x71374491, 0xb5c0fbcf, 0xe9b5dba5, 0x3956c25b, 0x59f111f1, 0x923f82a4,
    0xab1c5ed5, 0xd807aa98, 0x12835b01, 0x243185be, 0x550c7dc3, 0x72be5d74, 0x80deb1fe,
    0x9bdc06a7, 0xc19bf174, 0xe49b69c1, 0xefbe4786, 0x0fc19dc6, 0x240ca1cc, 0x2de92c6f,
    0x4a7484aa, 0x5cb0a9dc, 0x76f988da, 0x983e5152, 0xa831c66d, 0xb00327c8, 0xbf597fc7,
    0xc6e00bf3, 0xd5a79147, 0x06ca6351, 0x14292967, 0x27b70a85, 0x2e1b2138, 0x4d2c6dfc,
    0x53380d13, 0x650a7354, 0x766a0abb, 0x81c2c92e, 0x92722c85, 0xa2bfe8a1, 0xa81a664b,
    0xc24b8b70, 0xc76c51a3, 0xd192e819, 0xd6990624, 0xf40e3585, 0x106aa070, 0x19a4c116,
    0x1e376c08, 0x2748774c, 0x34b0bcb5, 0x391c0cb3, 0x4ed8aa4a, 0x5b9cca4f, 0x682e6ff3,
    0x748f82ee, 0x78a5636f, 0x84c87814, 0x8cc70208, 0x90befffa, 0xa4506ceb, 0xbef9a3f7, 0xc67178f2]
  initial := [
    0x6a09e667, 0xbb67ae85, 0x3c6ef372, 0xa54ff53a, 0x510e527f, 0x9b05688c, 0x1f83d9ab, 0x5be0cd19]
  size := 32

/-- The member with words of 64 bits. -/
def variant512 : Variant UInt64 where
  wordBytes := 8
  ofBytes bytes := UInt64.ofNat (Bytes.toNatBE bytes)
  toBytes w := Bytes.ofNatBE 8 w.toNat
  rotate x n := x >>> UInt64.ofNat n ||| x <<< UInt64.ofNat (64 - n)
  shift x n := x >>> UInt64.ofNat n
  amounts := ((28, 34, 39), (14, 18, 41), (1, 8, 7), (19, 61, 6))
  constants := [
    0x428a2f98d728ae22, 0x7137449123ef65cd, 0xb5c0fbcfec4d3b2f, 0xe9b5dba58189dbbc,
    0x3956c25bf348b538, 0x59f111f1b605d019, 0x923f82a4af194f9b, 0xab1c5ed5da6d8118,
    0xd807aa98a3030242, 0x12835b0145706fbe, 0x243185be4ee4b28c, 0x550c7dc3d5ffb4e2,
    0x72be5d74f27b896f, 0x80deb1fe3b1696b1, 0x9bdc06a725c71235, 0xc19bf174cf692694,
    0xe49b69c19ef14ad2, 0xefbe4786384f25e3, 0x0fc19dc68b8cd5b5, 0x240ca1cc77ac9c65,
    0x2de92c6f592b0275, 0x4a7484aa6ea6e483, 0x5cb0a9dcbd41fbd4, 0x76f988da831153b5,
    0x983e5152ee66dfab, 0xa831c66d2db43210, 0xb00327c898fb213f, 0xbf597fc7beef0ee4,
    0xc6e00bf33da88fc2, 0xd5a79147930aa725, 0x06ca6351e003826f, 0x142929670a0e6e70,
    0x27b70a8546d22ffc, 0x2e1b21385c26c926, 0x4d2c6dfc5ac42aed, 0x53380d139d95b3df,
    0x650a73548baf63de, 0x766a0abb3c77b2a8, 0x81c2c92e47edaee6, 0x92722c851482353b,
    0xa2bfe8a14cf10364, 0xa81a664bbc423001, 0xc24b8b70d0f89791, 0xc76c51a30654be30,
    0xd192e819d6ef5218, 0xd69906245565a910, 0xf40e35855771202a, 0x106aa07032bbd1b8,
    0x19a4c116b8d2d0c8, 0x1e376c085141ab53, 0x2748774cdf8eeb99, 0x34b0bcb5e19b48a8,
    0x391c0cb3c5c95a63, 0x4ed8aa4ae3418acb, 0x5b9cca4f7763e373, 0x682e6ff3d6b2b8a3,
    0x748f82ee5defb2fc, 0x78a5636f43172f60, 0x84c87814a1f0ab72, 0x8cc702081a6439ec,
    0x90befffa23631e28, 0xa4506cebde82bde9, 0xbef9a3f7b2c67915, 0xc67178f2e372532b,
    0xca273eceea26619c, 0xd186b8c721c0c207, 0xeada7dd6cde0eb1e, 0xf57d4f7fee6ed178,
    0x06f067aa72176fba, 0x0a637dc5a2c898a6, 0x113f9804bef90dae, 0x1b710b35131c471b,
    0x28db77f523047d84, 0x32caab7b40c72493, 0x3c9ebe0a15c9bebc, 0x431d67c49c100d4c,
    0x4cc5d4becb3e42b6, 0x597f299cfc657e2a, 0x5fcb6fab3ad6faec, 0x6c44198c4a475817]
  initial := [
    0x6a09e667f3bcc908, 0xbb67ae8584caa73b, 0x3c6ef372fe94f82b, 0xa54ff53a5f1d36f1,
    0x510e527fade682d1, 0x9b05688c2b3e6c1f, 0x1f83d9abfb41bd6b, 0x5be0cd19137e2179]
  size := 64

/-- The shortened member with words of 64 bits. -/
def variant384 : Variant UInt64 :=
  { variant512 with
    initial := [
      0xcbbb9d5dc1059ed8, 0x629a292a367cd507, 0x9159015a3070dd17, 0x152fecd8f70e5939,
      0x67332667ffc00b31, 0x8eb44a8768581511, 0xdb0c2e0d64f98fa7, 0x47b5481dbefa4fa4]
    size := 48 }

/-- SHA-256. -/
def sha256 (message : Bytes) : Bytes := hash variant256 message

/-- SHA-384. -/
def sha384 (message : Bytes) : Bytes := hash variant384 message

/-- SHA-512. -/
def sha512 (message : Bytes) : Bytes := hash variant512 message

end LoginGate.Sha2
