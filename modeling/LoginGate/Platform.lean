import LoginGate.Breakdown
import LoginGate.Http.Agent
import LoginGate.Jwt.Fault
import LoginGate.Jwt.Key
import LoginGate.Text.Utf8

/-!
# What a gate runs on

Some of what a gate does is up to what it runs on: what sends its requests, how deep documents and
patterns may nest, and what becomes of unusual keys and times.

## Main definitions

* `Platform` : what a gate runs on.
* `Platform.standard` : a usual one.
-/

namespace LoginGate

namespace Jwt

/-- Why a signature is not accepted. -/
abbrev SignatureFailure := Failure Fault

/-- What becomes of a published key. -/
inductive KeyReading where
  | usable (key : Key)
  | passedOver
  /-- The whole key set cannot be read because of it. -/
  | stuck
  deriving DecidableEq, Repr

end Jwt

/-- What a gate runs on. -/
structure Platform where
  /-- What sends requests to the provider. -/
  agent : Http.Agent
  /-- How many arrays and objects of a token or a key set may stand inside each other. -/
  nesting : Nat
  /-- Whether a token that nests deeper is refused like one that is no JSON. -/
  refusesDeepTokens : Bool
  /-- Whether a bypass pattern does not nest too deep. -/
  holdsPattern : String → Bool
  /-- What becomes of a published key that is neither a secret nor a public key. -/
  unusualKey : Json → Jwt.KeyReading
  /-- The key that a secret is where the algorithm takes the text of a key. -/
  keyOfText : (algorithm : String) → (family : Jwt.Family) → Bytes →
    Except Jwt.SignatureFailure Jwt.Key
  /-- Why a secret is none to sign with, if it is not. -/
  secretFault? : Bytes → Option Jwt.Fault
  /-- Whether a time in a token that is no number is refused like one that is misspelled. -/
  refusesTime : Json → Bool

namespace Platform

/-! ### Nesting of patterns -/

/-- How deep the groups of a pattern stand inside each other; `inSet` tells whether a set of
characters has begun. -/
def patternDepth (inSet : Bool) : (depth : Nat) → List Char → Nat
  | depth, [] => depth
  | depth, ['\\'] => depth
  | depth, '\\' :: _ :: rest => patternDepth inSet depth rest
  | depth, c :: rest =>
    if inSet then patternDepth (c ≠ ']') depth rest
    else if c = '[' then patternDepth true depth rest
    else if c = '(' then max (depth + 1) (patternDepth false (depth + 1) rest)
    else if c = ')' then max depth (patternDepth false (depth - 1) rest)
    else patternDepth false depth rest

/-! ### Unusual keys -/

/-- A private key where a public one is looked for: that of RSA can only sign, and of any other one
the public part is taken. -/
def privateKey (json : Json) : Jwt.KeyReading :=
  match json with
  | .obj members =>
    match Jwt.Key.ofJson? (.obj (members.filter (·.1 ≠ "d"))) with
    | some (.rsa _) => .usable .signer
    | some key => .usable key
    | none => .passedOver
  | _ => .passedOver

/-- A secret is not the text of a key. -/
def secretIsNoKey (family : Jwt.Family) (secret : Bytes) : Jwt.SignatureFailure :=
  match family with
  | .rsa => .fault .keyUnreadable
  | .edwards => if (Utf8.decode? secret).isSome then .fault .keyEdwards else .breakdown .keyText
  | .curve | .secret => .breakdown .keyText

/-- A usual platform, with secrets that are not the texts of keys. -/
def standard : Platform where
  agent := .standard
  nesting := 990
  refusesDeepTokens := true
  holdsPattern pattern := patternDepth false 0 pattern.toList ≤ 480
  unusualKey := privateKey
  keyOfText _ family secret := .error (secretIsNoKey family secret)
  secretFault? _ := none
  refusesTime _ := true

end Platform

end LoginGate
