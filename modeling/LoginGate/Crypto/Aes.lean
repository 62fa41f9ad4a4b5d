import LoginGate.Bytes

/-!
# The AES block cipher

Encryption of one block of sixteen bytes under a key of 16, 24 or 32 bytes.  A block is four
columns of four bytes.

## Main definitions

* `Aes.Word`, `Aes.Block` : a column, and four of them.
* `Aes.expandKey` : the round keys.
* `Aes.encrypt` : one block.
-/

namespace LoginGate.Aes

/-- A column of four bytes. -/
structure Word where
  a : UInt8
  b : UInt8
  c : UInt8
  d : UInt8
  deriving DecidableEq, Repr

/-- Four columns. -/
structure Block where
  x : Word
  y : Word
  z : Word
  w : Word
  deriving DecidableEq, Repr

/-- The substitution box. -/
def box : Array UInt8 := #[
    0x63, 0x7c, 0x77, 0x7b, 0xf2, 0x6b, 0x6f, 0xc5, 0x30, 0x01, 0x67, 0x2b, 0xfe, 0xd7, 0xab,
    0x76, 0xca, 0x82, 0xc9, 0x7d, 0xfa, 0x59, 0x47, 0xf0, 0xad, 0xd4, 0xa2, 0xaf, 0x9c, 0xa4,
    0x72, 0xc0, 0xb7, 0xfd, 0x93, 0x26, 0x36, 0x3f, 0xf7, 0xcc, 0x34, 0xa5, 0xe5, 0xf1, 0x71,
    0xd8, 0x31, 0x15, 0x04, 0xc7, 0x23, 0xc3, 0x18, 0x96, 0x05, 0x9a, 0x07, 0x12, 0x80, 0xe2,
    0xeb, 0x27, 0xb2, 0x75, 0x09, 0x83, 0x2c, 0x1a, 0x1b, 0x6e, 0x5a, 0xa0, 0x52, 0x3b, 0xd6,
    0xb3, 0x29, 0xe3, 0x2f, 0x84, 0x53, 0xd1, 0x00, 0xed, 0x20, 0xfc, 0xb1, 0x5b, 0x6a, 0xcb,
    0xbe, 0x39, 0x4a, 0x4c, 0x58, 0xcf, 0xd0, 0xef, 0xaa, 0xfb, 0x43, 0x4d, 0x33, 0x85, 0x45,
    0xf9, 0x02, 0x7f, 0x50, 0x3c, 0x9f, 0xa8, 0x51, 0xa3, 0x40, 0x8f, 0x92, 0x9d, 0x38, 0xf5,
    0xbc, 0xb6, 0xda, 0x21, 0x10, 0xff, 0xf3, 0xd2, 0xcd, 0x0c, 0x13, 0xec, 0x5f, 0x97, 0x44,
    0x17, 0xc4, 0xa7, 0x7e, 0x3d, 0x64, 0x5d, 0x19, 0x73, 0x60, 0x81, 0x4f, 0xdc, 0x22, 0x2a,
    0x90, 0x88, 0x46, 0xee, 0xb8, 0x14, 0xde, 0x5e, 0x0b, 0xdb, 0xe0, 0x32, 0x3a, 0x0a, 0x49,
    0x06, 0x24, 0x5c, 0xc2, 0xd3, 0xac, 0x62, 0x91, 0x95, 0xe4, 0x79, 0xe7, 0xc8, 0x37, 0x6d,
    0x8d, 0xd5, 0x4e, 0xa9, 0x6c, 0x56, 0xf4, 0xea, 0x65, 0x7a, 0xae, 0x08, 0xba, 0x78, 0x25,
    0x2e, 0x1c, 0xa6, 0xb4, 0xc6, 0xe8, 0xdd, 0x74, 0x1f, 0x4b, 0xbd, 0x8b, 0x8a, 0x70, 0x3e,
    0xb5, 0x66, 0x48, 0x03, 0xf6, 0x0e, 0x61, 0x35, 0x57, 0xb9, 0x86, 0xc1, 0x1d, 0x9e, 0xe1,
    0xf8, 0x98, 0x11, 0x69, 0xd9, 0x8e, 0x94, 0x9b, 0x1e, 0x87, 0xe9, 0xce, 0x55, 0x28, 0xdf,
    0x8c, 0xa1, 0x89, 0x0d, 0xbf, 0xe6, 0x42, 0x68, 0x41, 0x99, 0x2d, 0x0f, 0xb0, 0x54, 0xbb, 0x16]

/-- Substitution of one byte. -/
def substitute (x : UInt8) : UInt8 := box.getD x.toNat 0

/-- Multiplication by two in the field of bytes. -/
def double (x : UInt8) : UInt8 := if x < 0x80 then x <<< 1 else (x <<< 1) ^^^ 0x1B

/-- Bytewise exclusive or. -/
def Word.add (u v : Word) : Word := ⟨u.a ^^^ v.a, u.b ^^^ v.b, u.c ^^^ v.c, u.d ^^^ v.d⟩

/-- Bytewise substitution. -/
def Word.substitute (u : Word) : Word :=
  ⟨Aes.substitute u.a, Aes.substitute u.b, Aes.substitute u.c, Aes.substitute u.d⟩

/-- The first byte moved to the end. -/
def Word.rotate (u : Word) : Word := ⟨u.b, u.c, u.d, u.a⟩

/-- The column's image under the fixed matrix. -/
def Word.mix (u : Word) : Word :=
  let all := u.a ^^^ u.b ^^^ u.c ^^^ u.d
  ⟨u.a ^^^ all ^^^ double (u.a ^^^ u.b), u.b ^^^ all ^^^ double (u.b ^^^ u.c),
    u.c ^^^ all ^^^ double (u.c ^^^ u.d), u.d ^^^ all ^^^ double (u.d ^^^ u.a)⟩

/-- The bytes of a column. -/
def Word.toBytes (u : Word) : Bytes := [u.a, u.b, u.c, u.d]

/-- Bytewise exclusive or. -/
def Block.add (s t : Block) : Block := ⟨s.x.add t.x, s.y.add t.y, s.z.add t.z, s.w.add t.w⟩

/-- Substitution of all bytes, and each row moved by its number. -/
def Block.substituteShift (s : Block) : Block :=
  let x := s.x.substitute
  let y := s.y.substitute
  let z := s.z.substitute
  let w := s.w.substitute
  ⟨⟨x.a, y.b, z.c, w.d⟩, ⟨y.a, z.b, w.c, x.d⟩, ⟨z.a, w.b, x.c, y.d⟩, ⟨w.a, x.b, y.c, z.d⟩⟩

/-- Every column mixed. -/
def Block.mix (s : Block) : Block := ⟨s.x.mix, s.y.mix, s.z.mix, s.w.mix⟩

/-- The sixteen bytes of a block. -/
def Block.toBytes (s : Block) : Bytes := s.x.toBytes ++ s.y.toBytes ++ s.z.toBytes ++ s.w.toBytes

@[simp] theorem Block.length_toBytes (s : Block) : s.toBytes.length = 16 := rfl

/-- The columns of a byte string whose length is a multiple of four. -/
def wordsOf : Bytes → List Word
  | a :: b :: c :: d :: rest => ⟨a, b, c, d⟩ :: wordsOf rest
  | _ => []

/-- The blocks of columns whose number is a multiple of four. -/
def blocksOf : List Word → List Block
  | x :: y :: z :: w :: rest => ⟨x, y, z, w⟩ :: blocksOf rest
  | _ => []

/-- The first sixteen bytes as a block, zeros for what is missing. -/
def Block.ofBytes (bytes : Bytes) : Block :=
  match wordsOf ((bytes ++ List.replicate 16 0).take 16) with
  | [x, y, z, w] => ⟨x, y, z, w⟩
  | _ => ⟨⟨0, 0, 0, 0⟩, ⟨0, 0, 0, 0⟩, ⟨0, 0, 0, 0⟩, ⟨0, 0, 0, 0⟩⟩

/-- The `count` words that follow the last `size` ones, which are `window`.  The word number `index`
is the one `size` places before, plus the last word, which at every multiple of `size` is rotated,
substituted and marked with the power `power` of two. -/
def expandWords (size : Nat) : (count index : Nat) → (power : UInt8) → (window : List Word) →
    List Word
  | 0, _, _, _ => []
  | _ + 1, _, _, [] => []
  | count + 1, index, power, first :: rest =>
    let last := rest.getLastD first
    let start := index % size == 0
    let turned :=
      if start then last.rotate.substitute.add ⟨power, 0, 0, 0⟩
      else if 6 < size && index % size == 4 then last.substitute
      else last
    let next := first.add turned
    next :: expandWords size count (index + 1) (if start then double power else power)
      (rest ++ [next])

/-- The round keys of a key. -/
def expandKey (key : Bytes) : List Block :=
  let words := wordsOf key
  let size := words.length
  blocksOf (words ++ expandWords size (4 * (size + 7) - size) size 1 words)

/-- The rounds after the first key has been added; the last one does not mix. -/
def rounds : List Block → Block → Block
  | [], s => s
  | [key], s => s.substituteShift.add key
  | key :: keys, s => rounds keys (s.substituteShift.mix.add key)

/-- One block under the round keys of a key. -/
def encrypt (roundKeys : List Block) (block : Block) : Block :=
  match roundKeys with
  | [] => block
  | key :: keys => rounds keys (block.add key)

end LoginGate.Aes
