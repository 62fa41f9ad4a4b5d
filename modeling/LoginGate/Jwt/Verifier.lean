import LoginGate.Json.Display
import LoginGate.Http.Request
import LoginGate.Jwt.Claims
import LoginGate.Jwt.KeyStore
import LoginGate.Jwt.Signature
import LoginGate.Provider.Metadata
import LoginGate.Settings.Basic

/-!
# Users by their access tokens

What a token tells of a user is read either as it stands, or after its signature and its claims have
been checked with the keys that the provider publishes.

## Main definitions

* `TokenFault` : why a token tells nothing.
* `Profile.ofToken` : what a token as it stands tells of a user.
* `Verifier` : what tokens are checked against.
* `Verifier.verify` : what a token that has been checked tells of a user.
-/

namespace LoginGate

/-- Why a token tells nothing. -/
inductive TokenFault where
  /-- It cannot be read. -/
  | unreadable (fault : Jwt.Fault)
  /-- It is a token for something else. -/
  | type (text : String)
  /-- It is signed by an algorithm that the provider does not use. -/
  | algorithm (text : String) (used : List String)
  /-- It is not valid. -/
  | invalid (fault : Jwt.Fault)
  /-- There are no keys to check it with, for a reason in words. -/
  | noKeys (why : Option String)
  deriving DecidableEq, Repr

/-- The words for a fault. -/
def TokenFault.message : TokenFault → String
  | .unreadable fault => "The token is not a valid JWT: " ++ fault.message
  | .type text => "Unexpected token type '" ++ text ++ "'"
  | .algorithm text used =>
    "Unexpected signing algorithm '" ++ text ++ "', the provider signs with " ++ Quoted.list used
  | .invalid fault => "Invalid token: " ++ fault.message
  | .noKeys none => "Unable to fetch the signing keys"
  | .noKeys (some why) => "Unable to fetch the signing keys: " ++ why

/-- Why nothing was told. -/
abbrev TokenFailure := Failure TokenFault

/-- What a token as it stands tells of a user. -/
def Profile.ofToken (platform : Platform) (token : String) :
    Except TokenFailure (Profile CodeString) :=
  match Jwt.read platform token with
  | .ok (_, claims) => .ok (Claims.profile claims)
  | .error failure => .error (failure.map .unreadable)

/-- What tokens are checked against. -/
structure Verifier where
  platform : Platform
  issuer : String
  /-- The algorithms that the provider signs with. -/
  algorithms : NameSet
  /-- Where the provider publishes its keys. -/
  keysUrl : String
  timeout : Seconds
  /-- How often the keys are asked for before they count as unreachable. -/
  maxAttempts : Int := 3

namespace Verifier

/-- The types of tokens that are accepted, in lower case. -/
def acceptedTypes : List String := ["jwt", "at+jwt", "application/at+jwt"]

/-- The verifier for a provider; there has to be a web address for its keys. -/
def make (platform : Platform) (metadata : ProviderMetadata) (timeout : Seconds)
    (maxAttempts : Int) : Except (Failure SettingsFault) Verifier :=
  match metadata.jwksUri.filter (!·.isEmpty) with
  | none => .error (.fault .noKeySet)
  | some url =>
    match Url.split? url with
    | none => .error (.breakdown .address)
    | some parts =>
      if parts.scheme = "http".toList || parts.scheme = "https".toList then
        .ok {
          platform
          issuer := metadata.issuer
          algorithms := metadata.signingAlgorithms
          keysUrl := url
          timeout
          maxAttempts }
      else .error (.breakdown .keySetAddress)

/-- A failure to find keys as a failure to verify. -/
def keyFailure : Jwt.KeySet.Failure → TokenFailure
  | .unreachable why => .fault (.noKeys (some why))
  | .fault fault => .fault (.invalid fault)
  | .breakdown breakdown => .breakdown breakdown

/-- The key of an id; an unreachable provider is asked again, `attempts` times in all. -/
def findKey (platform : Platform) (now : Instant) (id : Option CodeString) :
    (attempts : Nat) → Jwt.Errand → Except TokenFailure Jwt.Key × Jwt.Errand
  | 0, errand => (.error (.fault (.noKeys none)), errand)
  | attempts + 1, errand =>
    match errand.key platform now id with
    | (.ok key, errand) => (.ok key, errand)
    | (.error (.unreachable why), errand) =>
      if attempts = 0 then (.error (.fault (.noKeys (some why))), errand)
      else findKey platform now id attempts errand
    | (.error failure, errand) => (.error (keyFailure failure), errand)

/-- The key of the id in a token's header. -/
def keyFor (verifier : Verifier) (now : Instant) (token : String) (errand : Jwt.Errand) :
    Except TokenFailure Jwt.Key × Jwt.Errand :=
  if verifier.maxAttempts ≤ 0 then (.error (.fault (.noKeys none)), errand)
  else
    match Jwt.read verifier.platform token with
    | .error failure => (.error (failure.map .invalid), errand)
    | .ok (header, _) =>
      findKey verifier.platform now ((header.get? "kid").bind Json.codeString?)
        verifier.maxAttempts.toNat errand

/-- Whether a header names an accepted type, or none. -/
def isAcceptedType (header : Json) : Bool :=
  match header.get? "typ" with
  | none | some .null => true
  | some value =>
    acceptedTypes.contains (String.ofList (toLowerChars value.display.toList))

/-- The value of a header parameter in a message. -/
def shown (header : Json) (name : String) : String := ((header.get? name).getD .null).display

/-- Checks type and algorithm, and gives the name of the algorithm. -/
def checkHeader (verifier : Verifier) (header : Json) : Except TokenFailure String :=
  if !isAcceptedType header then .error (.fault (.type (shown header "typ")))
  else
    match header.get? "alg" with
    | some (.arr _) | some (.obj _) => .error (.breakdown .algorithmKind)
    | some (.str name) =>
      if verifier.algorithms.contains name then .ok name
      else .error (.fault (.algorithm name verifier.algorithms.toList))
    | _ => .error (.fault (.algorithm (shown header "alg") verifier.algorithms.toList))

/-- The claims of a token whose key has been found. -/
def checkedClaims (verifier : Verifier) (now : Instant) (algorithm : String) (key : Jwt.Key)
    (document : Jwt.Document) : Except (Failure Jwt.Fault) Json := do
  Jwt.checkSignature verifier.platform algorithm key document.signed document.signature
  let claims ← document.claims verifier.platform
  Claims.check verifier.platform claims verifier.issuer now
  return claims

/-- The claims of a token that has been checked. -/
def verifiedClaims (verifier : Verifier) (now : Instant) (token : String) (errand : Jwt.Errand) :
    Except TokenFailure Json × Jwt.Errand :=
  match Jwt.load verifier.platform token with
  | .error failure => (.error (failure.map .unreadable), errand)
  | .ok document =>
    match verifier.checkHeader document.header with
    | .error failure => (.error failure, errand)
    | .ok algorithm =>
      let (key, errand) := verifier.keyFor now token errand
      (key.bind fun key =>
        (verifier.checkedClaims now algorithm key document).mapError (·.map .invalid), errand)

/-- What a token that has been checked tells of a user. -/
def verify (verifier : Verifier) (now : Instant) (token : String) (errand : Jwt.Errand) :
    Except TokenFailure (Profile CodeString) × Jwt.Errand :=
  let (claims, errand) := verifier.verifiedClaims now token errand
  (claims.map Claims.profile, errand)

end Verifier

end LoginGate
