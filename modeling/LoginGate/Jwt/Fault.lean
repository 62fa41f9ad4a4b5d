/-!
# Faults of signed tokens

## Main definitions

* `Jwt.Fault` : what can be wrong with a signed token or with the keys for it.
* `Jwt.Fault.message` : the words for it.
-/

namespace LoginGate.Jwt

/-- What can be wrong with a signed token or with the keys for it. -/
inductive Fault where
  /-- There are fewer than three segments. -/
  | segments
  | headerEncoding
  | headerText
  | headerKind
  /-- The payload is said to be elsewhere, but it is here. -/
  | attachedPayload
  | payloadEncoding
  | signatureEncoding
  /-- The key id is no text. -/
  | keyIdKind
  /-- The critical extensions are no list, or none. -/
  | criticalList
  | criticalKind
  | criticalUnknown (name : String)
  | criticalAbsent (name : String)
  /-- The payload is elsewhere, and this is not critical. -/
  | detachedNotCritical
  | detachedPayload
  | payloadText
  | payloadKind
  /-- The token names no algorithm. -/
  | algorithmEmpty
  | algorithmUnknown
  /-- A key goes with the algorithm that takes none. -/
  | keyForNone
  /-- The text of a key cannot be read. -/
  | keyUnreadable
  /-- The key is a point on another curve than that of the algorithm. -/
  | keyCurve (name wanted : String)
  /-- The key is no point on an Edwards curve. -/
  | keyEdwards
  /-- The secret is the text of a key. -/
  | secretIsKey
  | signature
  | claimAbsent (name : String)
  | issuedAtKind
  | issuedInFuture
  | notBeforeKind
  | notYetValid
  | expiryKind
  | expired
  | issuerKind
  | issuer
  | subjectKind
  | tokenIdKind
  | keySetKind
  | keySetEmpty
  | keySetList
  | keySetUnusable
  | keySetSigning
  | keyUnknown (id : String)
  deriving DecidableEq, Repr

/-- The words for a fault. -/
def Fault.message : Fault → String
  | .segments => "Not enough segments"
  | .headerEncoding => "Invalid header padding"
  | .headerText => "Invalid header string"
  | .headerKind => "Invalid header string: must be a json object"
  | .attachedPayload => "Payload segment must be empty when 'b64' is false."
  | .payloadEncoding => "Invalid payload padding"
  | .signatureEncoding => "Invalid crypto padding"
  | .keyIdKind => "Key ID header parameter must be a string"
  | .criticalList => "Invalid 'crit' header: must be a non-empty list"
  | .criticalKind => "Invalid 'crit' header: values must be strings"
  | .criticalUnknown name => "Unsupported critical extension: " ++ name
  | .criticalAbsent name => "Critical extension '" ++ name ++ "' is missing from headers"
  | .detachedNotCritical =>
    "The 'b64' header parameter requires 'b64' to be listed in 'crit'."
  | .detachedPayload =>
    "It is required that you pass in a value for the \"detached_payload\" argument to decode a " ++
      "message having the b64 header set to false."
  | .payloadText => "Invalid payload string"
  | .payloadKind => "Invalid payload string: must be a json object"
  | .algorithmEmpty => "The specified alg value is not allowed"
  | .algorithmUnknown => "Algorithm not supported"
  | .keyForNone => "When alg = \"none\", key value must be None."
  | .keyUnreadable => "Could not parse the provided public key."
  | .keyCurve name wanted =>
    "The key's curve '" ++ name ++ "' does not match the expected curve '" ++ wanted ++
      "' for this algorithm"
  | .keyEdwards =>
    "Expecting a EllipticCurvePrivateKey/EllipticCurvePublicKey. Wrong key provided for EdDSA " ++
      "algorithms"
  | .secretIsKey =>
    "The specified key is an asymmetric key or x509 certificate and should not be used as an " ++
      "HMAC secret."
  | .signature => "Signature verification failed"
  | .claimAbsent name => "Token is missing the \"" ++ name ++ "\" claim"
  | .issuedAtKind => "Issued At claim (iat) must be an integer."
  | .issuedInFuture => "The token is not yet valid (iat)"
  | .notBeforeKind => "Not Before claim (nbf) must be an integer."
  | .notYetValid => "The token is not yet valid (nbf)"
  | .expiryKind => "Expiration Time claim (exp) must be an integer."
  | .expired => "Signature has expired"
  | .issuerKind => "Payload Issuer (iss) must be a string"
  | .issuer => "Invalid issuer"
  | .subjectKind => "Subject must be a string"
  | .tokenIdKind => "JWT ID must be a string"
  | .keySetKind => "The JWKS endpoint did not return a JSON object"
  | .keySetEmpty => "The JWK Set did not contain any keys"
  | .keySetList => "Invalid JWK Set value"
  | .keySetUnusable =>
    "The JWK Set did not contain any usable keys. Perhaps 'cryptography' is not installed?"
  | .keySetSigning => "The JWKS endpoint did not contain any signing keys"
  | .keyUnknown id => "Unable to find a signing key that matches: \"" ++ id ++ "\""

end LoginGate.Jwt
