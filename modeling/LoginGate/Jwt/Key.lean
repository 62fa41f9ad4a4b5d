import LoginGate.Crypto.Edwards
import LoginGate.Crypto.Hmac
import LoginGate.Crypto.Weierstrass
import LoginGate.Json.Basic
import LoginGate.Jwt.Segment

/-!
# Keys for signed tokens

## Main definitions

* `Jwt.families` : the algorithms.
* `Jwt.Key` : a key.
* `Jwt.Key.ofJson?` : a key from its published form.
* `Jwt.curveOf?` : the curve that goes with an algorithm.
* `Jwt.isSignature` : whether a signature is that of what has been signed.
-/

namespace LoginGate.Jwt

/-- The families of algorithms. -/
inductive Family where
  | rsa
  | curve
  | edwards
  | secret
  deriving DecidableEq, Repr

/-- The algorithms and their families. -/
def families : List (String × Family) := [
  ("HS256", .secret), ("HS384", .secret), ("HS512", .secret), ("RS256", .rsa), ("RS384", .rsa),
  ("RS512", .rsa), ("PS256", .rsa), ("PS384", .rsa), ("PS512", .rsa), ("ES256", .curve),
  ("ES256K", .curve), ("ES384", .curve), ("ES521", .curve), ("ES512", .curve),
  ("EdDSA", .edwards)]

/-- A key. -/
inductive Key where
  | rsa (key : Rsa.PublicKey)
  /-- An RSA key that can only sign. -/
  | signer
  /-- A point on a curve. -/
  | point (curve : Weierstrass.Curve) (x y : Nat)
  /-- A point on the curve of Ed25519, as it is written. -/
  | ed25519 (point : Bytes)
  /-- A point on the curve of Ed448, as it is written. -/
  | ed448 (point : Bytes)
  /-- A secret shared with the provider. -/
  | secret (bytes : Bytes)
  deriving DecidableEq, Repr

namespace Key

/-- The bytes of a member in base64. -/
def bytes? (json : Json) (name : String) : Option Bytes := do
  let text ← (← json.get? name).str?
  segment? text.toList

/-- An RSA key from its members. -/
def rsa? (json : Json) : Option Key := do
  let modulus ← bytes? json "n"
  let exponent ← bytes? json "e"
  let key : Rsa.PublicKey := ⟨modulus.toNatBE, exponent.toNatBE⟩
  if 3 ≤ key.exponent && key.exponent % 2 = 1 && key.exponent < key.modulus then some (.rsa key)
  else none

/-- The curves by their names. -/
def curves : List (String × Weierstrass.Curve) :=
  [("P-256", Weierstrass.p256), ("P-384", Weierstrass.p384), ("P-521", Weierstrass.p521),
    ("secp256k1", Weierstrass.koblitz256)]

/-- A point from its members. -/
def point? (json : Json) : Option Key := do
  let x ← bytes? json "x"
  let y ← bytes? json "y"
  let curve ← curves.lookup (← (← json.get? "crv").str?)
  if x.length = curve.size && y.length = curve.size && curve.has x.toNatBE y.toNatBE then
    some (.point curve x.toNatBE y.toNatBE)
  else none

/-- The value for an algorithm that a key names, if it names one. -/
def algorithm? (json : Json) : Option Json := (json.get? "alg").filter (!·.isVoid)

/-- A point on an Edwards curve from its members.  On that of Ed448 the key has to name its
algorithm. -/
def edwards? (json : Json) : Option Key := do
  let point ← bytes? json "x"
  let curve ← (← json.get? "crv").str?
  if curve = "Ed25519" && point.length = 32 then some (.ed25519 point)
  else if curve = "Ed448" && point.length = 57 && (algorithm? json).isSome then some (.ed448 point)
  else none

/-- The family that a key belongs to: that of its algorithm, or else the one of its type. -/
def family? (json : Json) (type : String) : Option Family :=
  match algorithm? json with
  | some (.str name) => families.lookup name
  | some _ => none
  | none => [("RSA", .rsa), ("EC", .curve), ("oct", .secret), ("OKP", .edwards)].lookup type

/-- A secret or a public key from its published form. -/
def ofJson? (json : Json) : Option Key := do
  let type ← (← json.get? "kty").str?
  match ← family? json type, type, json.get? "d" with
  | .rsa, "RSA", none => rsa? json
  | .curve, "EC", none => point? json
  | .secret, "oct", _ => (bytes? json "k").map .secret
  | .edwards, "OKP", none => edwards? json
  | _, _, _ => none

end Key

/-- The curve that goes with an algorithm, and the hash. -/
def curveOf? : String → Option (Weierstrass.Curve × (Bytes → Bytes))
  | "ES256" => some (Weierstrass.p256, Sha2.sha256)
  | "ES256K" => some (Weierstrass.koblitz256, Sha2.sha256)
  | "ES384" => some (Weierstrass.p384, Sha2.sha384)
  | "ES512" | "ES521" => some (Weierstrass.p521, Sha2.sha512)
  | _ => none

/-- Whether a signature is that of what has been signed, by an algorithm and a key for it. -/
def isSignature (algorithm : String) (key : Key) (signed signature : Bytes) : Bool :=
  match algorithm, key with
  | "RS256", .rsa key => Rsa.verify Rsa.sha256 key signed signature
  | "RS384", .rsa key => Rsa.verify Rsa.sha384 key signed signature
  | "RS512", .rsa key => Rsa.verify Rsa.sha512 key signed signature
  | "PS256", .rsa key => Rsa.verifySalted Sha2.sha256 key signed signature
  | "PS384", .rsa key => Rsa.verifySalted Sha2.sha384 key signed signature
  | "PS512", .rsa key => Rsa.verifySalted Sha2.sha512 key signed signature
  | "EdDSA", .ed25519 point => Edwards.verify25519 point signed signature
  | "EdDSA", .ed448 point => Edwards.verify448 point signed signature
  | "HS256", .secret bytes => Hmac.sha256 bytes signed = signature
  | "HS384", .secret bytes => Hmac.sha384 bytes signed = signature
  | "HS512", .secret bytes => Hmac.sha512 bytes signed = signature
  | _, .point curve x y =>
    match curveOf? algorithm with
    | some (wanted, hash) => curve = wanted && curve.verify hash x y signed signature
    | none => false
  | _, _ => false

end LoginGate.Jwt
