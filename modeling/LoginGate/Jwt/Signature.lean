import LoginGate.Platform

/-!
# Checked signatures

## Main definitions

* `Jwt.Key.prepare` : the key that an algorithm takes a given one for.
* `Jwt.checkSignature` : checks a signature by the algorithm that the token names.
-/

namespace LoginGate.Jwt

/-- A point as a key for an algorithm, which has a curve of its own. -/
def checkCurve (algorithm : String) (curve : Weierstrass.Curve) : Except SignatureFailure Unit :=
  match curveOf? algorithm with
  | some (wanted, _) =>
    if curve = wanted then .ok () else .error (.fault (.keyCurve curve.name wanted.name))
  | none => .ok ()

/-- The key that an algorithm of a family takes a given one for.  A secret counts as the text of a
key, but where secrets sign. -/
def Key.prepare (platform : Platform) (algorithm : String) (family : Family) (key : Key) :
    Except SignatureFailure Key :=
  match family, key with
  | .secret, .secret bytes =>
    match platform.secretFault? bytes with
    | some fault => .error (.fault fault)
    | none => .ok key
  | _, .secret bytes => platform.keyOfText algorithm family bytes
  | .rsa, .rsa _ => .ok key
  | .curve, .point curve _ _ => (checkCurve algorithm curve).map fun _ => key
  | .edwards, .ed25519 _ | .edwards, .ed448 _ => .ok key
  | .edwards, _ => .error (.fault .keyEdwards)
  | _, _ => .error (.breakdown .keyKind)

/-- Checks a signature by the algorithm that the token names. -/
def checkSignature (platform : Platform) (algorithm : String) (key : Key)
    (signed signature : Bytes) : Except SignatureFailure Unit :=
  if algorithm.isEmpty then .error (.fault .algorithmEmpty)
  else if algorithm = "none" then .error (.fault .keyForNone)
  else
    match families.lookup algorithm with
    | none => .error (.fault .algorithmUnknown)
    | some family => do
      let key ← key.prepare platform algorithm family
      if isSignature algorithm key signed signature then .ok () else .error (.fault .signature)

end LoginGate.Jwt
