import LoginGate.Bytes

/-!
# Reading deflated data

Blocks of bytes that are stored as they are, or coded by fixed or transmitted prefix codes, with
copies of what has been put out before.

A prefix code is kept as the number of codes of each length and the symbols in the order of their
codes, which is all that canonical codes need.

## Main definitions

* `Inflate.Bits` : the input, bit by bit.
* `Inflate.Code` : a canonical prefix code.
* `Inflate.inflate?` : the data up to the end of the last block, and the bytes that follow.
-/

namespace LoginGate.Inflate

/-! ### Bits -/

/-- The bits of the byte at hand that are left, and the bytes behind it. -/
structure Bits where
  /-- Bits left of the byte at hand. -/
  held : List Bool
  /-- The bytes that follow. -/
  bytes : Bytes

/-- The bits of a byte, least significant first. -/
def bitsOf (b : UInt8) : List Bool := (List.range 8).map b.toNat.testBit

/-- The next bit. -/
def Bits.next? : Bits → Option (Bool × Bits)
  | ⟨bit :: held, bytes⟩ => some (bit, ⟨held, bytes⟩)
  | ⟨[], b :: bytes⟩ =>
    match bitsOf b with
    | bit :: held => some (bit, ⟨held, bytes⟩)
    | [] => none
  | ⟨[], []⟩ => none

/-- A number of `count` bits, least significant first. -/
def Bits.take? : (count : Nat) → Bits → Option (Nat × Bits)
  | 0, bits => some (0, bits)
  | count + 1, bits => do
    let (bit, bits) ← bits.next?
    let (n, bits) ← take? count bits
    pure (2 * n + bit.toNat, bits)

/-! ### Prefix codes -/

/-- A canonical prefix code. -/
structure Code where
  /-- How many codes have one bit, two bits, and so on. -/
  counts : List Nat
  /-- The symbols in the order of their codes. -/
  symbols : Array Nat

/-- The code that gives symbol `i` a code of as many bits as the `i`-th length says; no code for a
length of zero. -/
def Code.ofLengths (lengths : List Nat) : Code :=
  { counts := (List.range 15).map fun l => lengths.countP (· == l + 1)
    symbols := ((List.range 15).flatMap fun l =>
      (lengths.zipIdx.filter fun p => p.1 == l + 1).map (·.2)).toArray }

/-- The codes of one more bit that are left over when those of each length have been given away, or
nothing if there were too few. -/
def leftOver : (free : Nat) → (counts : List Nat) → Option Nat
  | free, [] => some free
  | free, count :: counts =>
    if 2 * free < count then none else leftOver (2 * free - count) counts

/-- Whether every bit pattern starts with exactly one code. -/
def Code.isComplete (code : Code) : Bool := leftOver 1 code.counts == some 0

/-- Whether codes may be used although patterns are left over: none at all, or one of one bit. -/
def Code.isSingle (code : Code) : Bool :=
  code.symbols.size ≤ 1 && code.counts.head? == some code.symbols.size

/-- Reads one symbol: `value` is the pattern so far, `first` the first code of this length and
`index` the number of codes that are shorter. -/
def symbol? (symbols : Array Nat) : (counts : List Nat) → (value first index : Nat) → Bits →
    Option (Nat × Bits)
  | [], _, _, _, _ => none
  | count :: counts, value, first, index, bits => do
    let (bit, bits) ← bits.next?
    let value := 2 * value + bit.toNat
    if value < first + count then
      let symbol ← symbols[index + (value - first)]?
      pure (symbol, bits)
    else symbol? symbols counts value (2 * (first + count)) (index + count) bits

/-- Reads one symbol. -/
def Code.next? (code : Code) (bits : Bits) : Option (Nat × Bits) :=
  symbol? code.symbols code.counts 0 0 0 bits

/-! ### Literals and copies -/

/-- The least length of a copy and the extra bits, by symbol from 257 on. -/
def lengthTable : Array (Nat × Nat) := #[
  (3, 0), (4, 0), (5, 0), (6, 0), (7, 0), (8, 0), (9, 0), (10, 0), (11, 1), (13, 1), (15, 1),
  (17, 1), (19, 2), (23, 2), (27, 2), (31, 2), (35, 3), (43, 3), (51, 3), (59, 3), (67, 4),
  (83, 4), (99, 4), (115, 4), (131, 5), (163, 5), (195, 5), (227, 5), (258, 0)]

/-- The least distance of a copy and the extra bits, by symbol. -/
def distanceTable : Array (Nat × Nat) := #[
  (1, 0), (2, 0), (3, 0), (4, 0), (5, 1), (7, 1), (9, 2), (13, 2), (17, 3), (25, 3), (33, 4),
  (49, 4), (65, 5), (97, 5), (129, 6), (193, 6), (257, 7), (385, 7), (513, 8), (769, 8), (1025, 9),
  (1537, 9), (2049, 10), (3073, 10), (4097, 11), (6145, 11), (8193, 12), (12289, 12), (16385, 13),
  (24577, 13)]

/-- A table's number with its extra bits added. -/
def extended? (table : Array (Nat × Nat)) (symbol : Nat) (bits : Bits) : Option (Nat × Bits) := do
  let (least, extra) ← table[symbol]?
  let (more, bits) ← bits.take? extra
  pure (least + more, bits)

/-- The output with `length` bytes more, each the one that stands `distance` before the end. -/
def copy (distance : Nat) : (length : Nat) → Array UInt8 → Array UInt8
  | 0, out => out
  | length + 1, out => copy distance length (out.push (out.getD (out.size - distance) 0))

/-- The symbols of a block up to its end.  Every symbol takes a bit, so their number bounds the
steps. -/
def coded? (literals distances : Code) : (steps : Nat) → Bits → Array UInt8 →
    Option (Array UInt8 × Bits)
  | 0, _, _ => none
  | steps + 1, bits, out => do
    let (symbol, bits) ← literals.next? bits
    if symbol < 256 then coded? literals distances steps bits (out.push (UInt8.ofNat symbol))
    else if symbol = 256 then pure (out, bits)
    else
      let (length, bits) ← extended? lengthTable (symbol - 257) bits
      let (symbol, bits) ← distances.next? bits
      let (distance, bits) ← extended? distanceTable symbol bits
      if out.size < distance then none
      else coded? literals distances steps bits (copy distance length out)

/-! ### Blocks -/

/-- The fixed code of literals. -/
def fixedLiterals : Code :=
  .ofLengths (List.replicate 144 8 ++ List.replicate 112 9 ++ List.replicate 24 7 ++
    List.replicate 8 8)

/-- The fixed code of distances. -/
def fixedDistances : Code := .ofLengths (List.replicate 30 5)

/-- The order in which the lengths of the code for lengths are sent. -/
def lengthOrder : List Nat := [16, 17, 18, 0, 8, 7, 9, 6, 10, 5, 11, 4, 12, 3, 13, 2, 14, 1, 15]

/-- `count` numbers of three bits. -/
def triples? : (count : Nat) → Bits → Option (List Nat × Bits)
  | 0, bits => some ([], bits)
  | count + 1, bits => do
    let (n, bits) ← bits.take? 3
    let (ns, bits) ← triples? count bits
    pure (n :: ns, bits)

/-- Code lengths up to exactly `total` of them, most recent first in `done`; some symbols repeat the
last length or zero. -/
def lengths? (code : Code) (total : Nat) : (steps : Nat) → Bits → (done : List Nat) →
    Option (List Nat × Bits)
  | steps, bits, done =>
    if done.length = total then some (done.reverse, bits)
    else if total < done.length then none
    else
      match steps with
      | 0 => none
      | steps + 1 => do
        let (symbol, bits) ← code.next? bits
        if symbol < 16 then lengths? code total steps bits (symbol :: done)
        else if symbol = 16 then
          let last ← done.head?
          let (n, bits) ← bits.take? 2
          lengths? code total steps bits (List.replicate (3 + n) last ++ done)
        else if symbol = 17 then
          let (n, bits) ← bits.take? 3
          lengths? code total steps bits (List.replicate (3 + n) 0 ++ done)
        else
          let (n, bits) ← bits.take? 7
          lengths? code total steps bits (List.replicate (11 + n) 0 ++ done)

/-- The transmitted codes of literals and of distances. -/
def codes? (bits : Bits) : Option ((Code × Code) × Bits) := do
  let (literals, bits) ← bits.take? 5
  let (distances, bits) ← bits.take? 5
  let (sent, bits) ← bits.take? 4
  let literals := literals + 257
  let distances := distances + 1
  if 286 < literals ∨ 30 < distances then none
  else
    let (ns, bits) ← triples? (sent + 4) bits
    let sentLengths := lengthOrder.zip ns
    let code := Code.ofLengths ((List.range 19).map fun i => (sentLengths.lookup i).getD 0)
    if !code.isComplete then none
    else
      let total := literals + distances
      let (lengths, bits) ← lengths? code total total bits []
      let literalCode := Code.ofLengths (lengths.take literals)
      let distanceCode := Code.ofLengths (lengths.drop literals)
      if (lengths.getD 256 0 == 0) || !(literalCode.isComplete || literalCode.isSingle) ||
          !(distanceCode.isComplete || distanceCode.isSingle) then none
      else pure ((literalCode, distanceCode), bits)

/-- A stored block: its length, the complement of that, and the bytes. -/
def stored? (bytes : Bytes) (out : Array UInt8) : Option (Array UInt8 × Bits) :=
  match bytes with
  | a :: b :: c :: d :: rest =>
    let size := a.toNat + 256 * b.toNat
    if size + (c.toNat + 256 * d.toNat) = 0xFFFF ∧ size ≤ rest.length then
      some (out ++ (rest.take size).toArray, ⟨[], rest.drop size⟩)
    else none
  | _ => none

/-- One block of a given kind. -/
def block? (kind steps : Nat) (bits : Bits) (out : Array UInt8) : Option (Array UInt8 × Bits) :=
  match kind with
  | 0 => stored? bits.bytes out
  | 1 => coded? fixedLiterals fixedDistances steps bits out
  | 2 => do
    let ((literals, distances), bits) ← codes? bits
    coded? literals distances steps bits out
  | _ => none

/-- Blocks up to the last one.  Every block takes a bit, so their number bounds the steps. -/
def blocks? : (steps : Nat) → Bits → Array UInt8 → Option (Array UInt8 × Bits)
  | 0, _, _ => none
  | steps + 1, bits, out => do
    let (last, bits) ← bits.next?
    let (kind, bits) ← bits.take? 2
    let (out, bits) ← block? kind (8 * bits.bytes.length + 8) bits out
    if last then pure (out, bits) else blocks? steps bits out

/-- The data up to the end of the last block, and the bytes that follow. -/
def inflate? (bytes : Bytes) : Option (Bytes × Bytes) :=
  (blocks? (8 * bytes.length + 1) ⟨[], bytes⟩ #[]).map fun (out, bits) => (out.toList, bits.bytes)

end LoginGate.Inflate
