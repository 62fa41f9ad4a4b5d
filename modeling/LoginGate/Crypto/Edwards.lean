import LoginGate.Crypto.Keccak
import LoginGate.Crypto.Rsa

/-!
# Signatures on Edwards curves

The points of a curve `ax² + y² = 1 + dx²y²` over a prime field are kept in projective coordinates.
Their sums need neither a division nor a case for equal points.

## Main definitions

* `Edwards.Curve` : a curve with a base point.
* `Edwards.ed25519`, `Edwards.ed448` : the curves in use.
* `Edwards.verify25519`, `Edwards.verify448` : whether a signature is that of a message.
-/

namespace LoginGate.Edwards

/-- A point `(x / z, y / z)`. -/
structure Point where
  x : Nat
  y : Nat
  z : Nat
  deriving DecidableEq, Repr

/-- The neutral point. -/
def neutral : Point := ⟨0, 1, 1⟩

/-- A curve with a base point. -/
structure Curve where
  /-- The prime of the field. -/
  prime : Nat
  a : Nat
  d : Nat
  /-- The number of multiples of the base point. -/
  order : Nat
  base : Point
  /-- The power of a square that is its root, or is so after a product with `unit`. -/
  rootPower : Nat
  /-- A root of `-1`, if there is one, or else `1`. -/
  unit : Nat
  /-- Bytes of a written point, and of the number in a signature. -/
  size : Nat

/-- The curve of Ed25519. -/
def ed25519 : Curve where
  prime := Nat.pow 2 255 - 19
  a := Nat.pow 2 255 - 20
  d := 0x52036CEE2B6FFE738CC740797779E89800700A4D4141D8AB75EB4DCA135978A3
  order := Nat.pow 2 252 + 0x14DEF9DEA2F79CD65812631A5CF5D3ED
  base := ⟨0x216936D3CD6E53FEC0A4E231FDD6DC5C692CC7609525A7B2C9562D608F25D51A,
    0x6666666666666666666666666666666666666666666666666666666666666658, 1⟩
  rootPower := Nat.pow 2 252 - 2
  unit := 0x2B8324804FC1DF0B2B4D00993DFBD7A72F431806AD2FE478C4EE1B274A0EA0B0
  size := 32

/-- The curve of Ed448. -/
def ed448 : Curve where
  prime := Nat.pow 2 448 - Nat.pow 2 224 - 1
  a := 1
  d := Nat.pow 2 448 - Nat.pow 2 224 - 39082
  order := Nat.pow 2 446 - 0x8335DC163BB124B65129C96FDE933D8D723A70AADC873D6D54A7BB0D
  base :=
    ⟨0x4F1970C66BED0DED221D15A622BF36DA9E146570470F1767 * Nat.pow 2 256 +
        0xEA6DE324A3D3A46412AE1AF72AB66511433B80E18B00938E2626A82BC70CC05E,
      0x693F46716EB6BC248876203756C9C7624BEA73736CA39840 * Nat.pow 2 256 +
        0x87789C1E05A0C2D73AD3FF1CE67C39C4FDBD132C4ED7C8AD9808795BF230FA14, 1⟩
  rootPower := Nat.pow 2 446 - Nat.pow 2 222
  unit := 1
  size := 57

namespace Curve

/-- A product in the field. -/
def mul (curve : Curve) (a b : Nat) : Nat := a * b % curve.prime

/-- The opposite in the field. -/
def opposite (curve : Curve) (a : Nat) : Nat := (curve.prime - a % curve.prime) % curve.prime

/-- The inverse in the field, and zero for zero. -/
def inverse (curve : Curve) (a : Nat) : Nat := Rsa.powMod a (curve.prime - 2) curve.prime

/-- The sum of two points. -/
def add (curve : Curve) (p q : Point) : Point :=
  let z := curve.mul p.z q.z
  let zz := curve.mul z z
  let x := curve.mul p.x q.x
  let y := curve.mul p.y q.y
  let e := curve.mul curve.d (curve.mul x y)
  let f := zz + curve.opposite e
  let g := zz + e
  ⟨curve.mul (curve.mul z f) ((p.x + p.y) * (q.x + q.y) + curve.opposite x + curve.opposite y),
    curve.mul (curve.mul z g) (y + curve.opposite (curve.mul curve.a x)), curve.mul f g⟩

/-- The opposite of a point. -/
def negate (curve : Curve) (p : Point) : Point := { p with x := curve.opposite p.x }

/-- A multiple of a point. -/
def times (curve : Curve) (p : Point) (n : Nat) : Point :=
  if n = 0 then neutral
  else
    let half := curve.times (curve.add p p) (n / 2)
    if n % 2 = 0 then half else curve.add half p
termination_by n
decreasing_by omega

/-- Whether a point is the neutral one. -/
def isNeutral (curve : Curve) (p : Point) : Bool :=
  p.x % curve.prime = 0 && p.y % curve.prime = p.z % curve.prime

/-- A point in bytes: the second coordinate, and whether the first one is odd. -/
def write (curve : Curve) (p : Point) : Bytes :=
  let x := curve.mul p.x (curve.inverse p.z)
  let y := curve.mul p.y (curve.inverse p.z)
  Bytes.ofNatLE curve.size (y + x % 2 * Nat.pow 2 (8 * curve.size - 1))

/-- A root in the field. -/
def root? (curve : Curve) (square : Nat) : Option Nat :=
  let root := Rsa.powMod square curve.rootPower curve.prime
  [root, curve.mul root curve.unit].find? fun x => curve.mul x x == square % curve.prime

/-- The point with a second coordinate and a first one that is odd or even as told. -/
def point? (curve : Curve) (y : Nat) (odd : Bool) : Option Point :=
  let yy := curve.mul y y
  let divisor := curve.a + curve.opposite (curve.mul curve.d yy)
  (curve.root? (curve.mul (1 + curve.opposite yy) (curve.inverse divisor))).map fun x =>
    ⟨if (x % 2 == 1) == odd then x else curve.opposite x, y, 1⟩

/-- Second coordinate and oddness of the first one in bytes. -/
def parts (curve : Curve) (bytes : Bytes) : Nat × Bool :=
  let n := Bytes.toNatLE bytes
  (n % Nat.pow 2 (8 * curve.size - 1), Nat.pow 2 (8 * curve.size - 1) ≤ n)

end Curve

/-- Whether a signature of Ed25519 is that of a message: the point in it, as it is written, is the
one that follows from the key and the number in it.  The coordinate of a key may be beyond the
prime. -/
def verify25519 (key message signature : Bytes) : Bool :=
  let point := signature.take 32
  let s := Bytes.toNatLE (signature.drop 32)
  let k := Bytes.toNatLE (Sha2.sha512 (point ++ key ++ message)) % ed25519.order
  let (y, odd) := ed25519.parts key
  signature.length = 64 && s < ed25519.order &&
    match ed25519.point? (y % ed25519.prime) odd with
    | some a =>
      ed25519.write
        (ed25519.add (ed25519.times ed25519.base s) (ed25519.times (ed25519.negate a) k)) = point
    | none => false

/-- What precedes the hashed bytes of Ed448. -/
def prefix448 : Bytes := "SigEd448".toUTF8.toList ++ [0, 0]

/-- The point in bytes, its coordinate below the prime. -/
def point448? (bytes : Bytes) : Option Point :=
  let (y, odd) := ed448.parts bytes
  if y < ed448.prime then ed448.point? y odd else none

/-- Whether a signature of Ed448 is that of a message: four times the point in it is four times the
one that follows from the key and the number in it. -/
def verify448 (key message signature : Bytes) : Bool :=
  let point := signature.take 57
  let s := Bytes.toNatLE (signature.drop 57)
  let k := Bytes.toNatLE (Keccak.shake256 114 (prefix448 ++ point ++ key ++ message)) % ed448.order
  signature.length = 114 && s < ed448.order &&
    match point448? key, point448? point with
    | some a, some r =>
      let rest := ed448.add (ed448.times ed448.base s)
        (ed448.negate (ed448.add r (ed448.times a k)))
      ed448.isNeutral (ed448.times rest 4)
    | _, _ => false

end LoginGate.Edwards
