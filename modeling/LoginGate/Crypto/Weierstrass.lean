import LoginGate.Crypto.Rsa

/-!
# Signatures on Weierstrass curves

The points of a curve `y² = x³ + ax + b` over a prime field are kept in Jacobian coordinates, so
that sums need no division.

## Main definitions

* `Weierstrass.Curve` : a curve with a base point.
* `Weierstrass.p256`, `Weierstrass.p384`, `Weierstrass.p521`, `Weierstrass.koblitz256` : the curves
  in use.
* `Weierstrass.Curve.has` : whether two coordinates are a point.
* `Weierstrass.Curve.verify` : whether a signature is that of a message.
-/

namespace LoginGate.Weierstrass

/-- A curve with a base point. -/
structure Curve where
  name : String
  /-- The prime of the field. -/
  prime : Nat
  a : Nat
  b : Nat
  /-- The number of points. -/
  order : Nat
  baseX : Nat
  baseY : Nat
  /-- Bytes of a coordinate, and of a half of a signature. -/
  size : Nat
  deriving DecidableEq, Repr

/-- A number of more than 256 bits in two parts. -/
def wide (high low : Nat) : Nat := high * Nat.pow 2 256 + low

/-- The curve P-256. -/
def p256 : Curve where
  name := "secp256r1"
  prime := 0xFFFFFFFF00000001000000000000000000000000FFFFFFFFFFFFFFFFFFFFFFFF
  a := 0xFFFFFFFF00000001000000000000000000000000FFFFFFFFFFFFFFFFFFFFFFFC
  b := 0x5AC635D8AA3A93E7B3EBBD55769886BC651D06B0CC53B0F63BCE3C3E27D2604B
  order := 0xFFFFFFFF00000000FFFFFFFFFFFFFFFFBCE6FAADA7179E84F3B9CAC2FC632551
  baseX := 0x6B17D1F2E12C4247F8BCE6E563A440F277037D812DEB33A0F4A13945D898C296
  baseY := 0x4FE342E2FE1A7F9B8EE7EB4A7C0F9E162BCE33576B315ECECBB6406837BF51F5
  size := 32

/-- The curve P-384. -/
def p384 : Curve where
  name := "secp384r1"
  prime := Nat.pow 2 384 - Nat.pow 2 128 - Nat.pow 2 96 + Nat.pow 2 32 - 1
  a := Nat.pow 2 384 - Nat.pow 2 128 - Nat.pow 2 96 + Nat.pow 2 32 - 4
  b := wide 0xB3312FA7E23EE7E4988E056BE3F82D19
    0x181D9C6EFE8141120314088F5013875AC656398D8A2ED19D2A85C8EDD3EC2AEF
  order := wide 0xFFFFFFFFFFFFFFFFFFFFFFFFFFFFFFFF
    0xFFFFFFFFFFFFFFFFC7634D81F4372DDF581A0DB248B0A77AECEC196ACCC52973
  baseX := wide 0xAA87CA22BE8B05378EB1C71EF320AD74
    0x6E1D3B628BA79B9859F741E082542A385502F25DBF55296C3A545E3872760AB7
  baseY := wide 0x3617DE4A96262C6F5D9E98BF9292DC29
    0xF8F41DBD289A147CE9DA3113B5F0B8C00A60B1CE1D7E819D7A431D7C90EA0E5F
  size := 48

/-- The curve P-521. -/
def p521 : Curve where
  name := "secp521r1"
  prime := Nat.pow 2 521 - 1
  a := Nat.pow 2 521 - 4
  b := wide 0x51953EB9618E1C9A1F929A21A0B68540EEA2DA725B99B315F3B8B489918EF109E1
    0x56193951EC7E937B1652C0BD3BB1BF073573DF883D2C34F1EF451FD46B503F00
  order := wide 0x1FFFFFFFFFFFFFFFFFFFFFFFFFFFFFFFFFFFFFFFFFFFFFFFFFFFFFFFFFFFFFFFFFA
    0x51868783BF2F966B7FCC0148F709A5D03BB5C9B8899C47AEBB6FB71E91386409
  baseX := wide 0xC6858E06B70404E9CD9E3ECB662395B4429C648139053FB521F828AF606B4D3DBA
    0xA14B5E77EFE75928FE1DC127A2FFA8DE3348B3C1856A429BF97E7E31C2E5BD66
  baseY := wide 0x11839296A789A3BC0045C8A5FB42C7D1BD998F54449579B446817AFBD17273E662C
    0x97EE72995EF42640C550B9013FAD0761353C7086A272C24088BE94769FD16650
  size := 66

/-- The curve secp256k1. -/
def koblitz256 : Curve where
  name := "secp256k1"
  prime := 0xFFFFFFFFFFFFFFFFFFFFFFFFFFFFFFFFFFFFFFFFFFFFFFFFFFFFFFFEFFFFFC2F
  a := 0
  b := 7
  order := 0xFFFFFFFFFFFFFFFFFFFFFFFFFFFFFFFEBAAEDCE6AF48A03BBFD25E8CD0364141
  baseX := 0x79BE667EF9DCBBAC55A06295CE870B07029BFCDB2DCE28D959F2815B16F81798
  baseY := 0x483ADA7726A3C4655DA4FBFC0E1108A8FD17B448A68554199C47D08FFB10D4B8
  size := 32

namespace Curve

/-- A difference in the field. -/
def sub (curve : Curve) (a b : Nat) : Nat := (a + (curve.prime - b % curve.prime)) % curve.prime

/-- A product in the field. -/
def mul (curve : Curve) (a b : Nat) : Nat := a * b % curve.prime

/-- Whether two coordinates are a point. -/
def has (curve : Curve) (x y : Nat) : Bool :=
  x < curve.prime && y < curve.prime &&
    curve.mul y y == (curve.mul (curve.mul x x) x + curve.mul curve.a x + curve.b) % curve.prime

end Curve

/-- A point `(x / z², y / z³)`; the neutral point has `z = 0`. -/
structure Point where
  x : Nat
  y : Nat
  z : Nat
  deriving DecidableEq, Repr

/-- The neutral point. -/
def neutral : Point := ⟨1, 1, 0⟩

namespace Curve

/-- A point added to itself. -/
def double (curve : Curve) (p : Point) : Point :=
  if p.z = 0 || p.y = 0 then neutral
  else
    let yy := curve.mul p.y p.y
    let s := curve.mul 4 (curve.mul p.x yy)
    let zz := curve.mul p.z p.z
    let m := (3 * curve.mul p.x p.x + curve.a * curve.mul zz zz) % curve.prime
    let x := curve.sub (curve.mul m m) (curve.mul 2 s)
    ⟨x, curve.sub (curve.mul m (curve.sub s x)) (curve.mul 8 (curve.mul yy yy)),
      curve.mul 2 (curve.mul p.y p.z)⟩

/-- The sum of two points. -/
def add (curve : Curve) (p q : Point) : Point :=
  if p.z = 0 then q
  else if q.z = 0 then p
  else
    let pzz := curve.mul p.z p.z
    let qzz := curve.mul q.z q.z
    let u := curve.mul p.x qzz
    let v := curve.mul q.x pzz
    let s := curve.mul p.y (curve.mul qzz q.z)
    let t := curve.mul q.y (curve.mul pzz p.z)
    let h := curve.sub v u
    let r := curve.sub t s
    if h = 0 then
      if r = 0 then curve.double p else neutral
    else
      let hh := curve.mul h h
      let hhh := curve.mul hh h
      let w := curve.mul u hh
      let x := curve.sub (curve.sub (curve.mul r r) hhh) (curve.mul 2 w)
      ⟨x, curve.sub (curve.mul r (curve.sub w x)) (curve.mul s hhh),
        curve.mul h (curve.mul p.z q.z)⟩

/-- A multiple of a point. -/
def times (curve : Curve) (p : Point) (n : Nat) : Point :=
  if n = 0 then neutral
  else
    let half := curve.times (curve.double p) (n / 2)
    if n % 2 = 0 then half else curve.add half p
termination_by n
decreasing_by omega

/-- The coordinate `x` of a point that is not neutral. -/
def affineX? (curve : Curve) (p : Point) : Option Nat :=
  if p.z = 0 then none
  else some (curve.mul p.x (Rsa.powMod (curve.mul p.z p.z) (curve.prime - 2) curve.prime))

/-- Whether a signature is that of a message, for a hash that is no longer than the order. -/
def verify (curve : Curve) (hash : Bytes → Bytes) (x y : Nat) (message signature : Bytes) : Bool :=
  let r := Bytes.toNatBE (signature.take curve.size)
  let s := Bytes.toNatBE (signature.drop curve.size)
  if signature.length ≠ 2 * curve.size || r = 0 || curve.order ≤ r || s = 0 || curve.order ≤ s then
    false
  else
    let e := Bytes.toNatBE (hash message)
    let w := Rsa.powMod s (curve.order - 2) curve.order
    let sum := curve.add (curve.times ⟨curve.baseX, curve.baseY, 1⟩ (e * w % curve.order))
      (curve.times ⟨x, y, 1⟩ (r * w % curve.order))
    match curve.affineX? sum with
    | none => false
    | some x => x % curve.order == r

end Curve

end LoginGate.Weierstrass
