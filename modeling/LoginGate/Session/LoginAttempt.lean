import LoginGate.Base64.Basic
import LoginGate.Crypto.Sha2
import LoginGate.Json.Printer
import LoginGate.Json.Schema
import LoginGate.Text.Quoted

/-!
# Login attempts

What a browser keeps while the user is at the provider: the state that the provider echoes, and the
secret whose hash the provider has been given.

## Main definitions

* `LoginAttempt` : one attempt.
* `LoginAttempt.challenge?` : the hash of a code verifier.
* `LoginAttempt.ofRandom` : an attempt from random bytes.
* `LoginAttempt.matchesState` : whether a state is the attempt's.
-/

namespace LoginGate

/-- One attempt to log in. -/
structure LoginAttempt where
  /-- The value that the provider echoes. -/
  state : String
  /-- The secret that only this side knows until the end. -/
  codeVerifier : String
  /-- The hash of the secret, which the provider gets at the start. -/
  codeChallenge : String
  /-- How the hash is made. -/
  challengeMethod : String := "S256"
  deriving DecidableEq, Repr

namespace LoginAttempt

/-- The hash of an ASCII text as unpadded base64. -/
def challengeOf (ascii : Bytes) : String := Base64.encode .urlSafe (Sha2.sha256 ascii)

/-- The hash of a code verifier, which has to be an ASCII text. -/
def challenge? (verifier : String) : Option String :=
  if verifier.toList.all (·.toNat < 128) then some (challengeOf (Utf8.encode verifier)) else none

/-- An attempt from the random bytes for verifier and state. -/
def ofRandom (verifierBytes stateBytes : Bytes) : LoginAttempt :=
  let verifier := Base64.encode .urlSafe verifierBytes
  { state := Base64.encode .urlSafe stateBytes
    codeVerifier := verifier
    codeChallenge := challengeOf (Utf8.encode verifier) }

/-- Whether a state that came back is the attempt's: not empty, and equal. -/
def matchesState (attempt : LoginAttempt) (received : Option String) : Bool :=
  match received with
  | none => false
  | some s => !s.isEmpty && s == attempt.state

/-- Reads an attempt. -/
def reader : Schema.Reader LoginAttempt :=
  Schema.object fun json =>
    LoginAttempt.mk <$> Schema.required "state" Schema.string json <*>
      Schema.required "code_verifier" Schema.string json <*>
      Schema.required "code_challenge" Schema.string json <*>
      Schema.withDefault "code_challenge_method" "S256" Schema.string json

/-- An attempt in JSON. -/
def toJson (attempt : LoginAttempt) : Json :=
  .obj [("state", .str attempt.state), ("code_verifier", .str attempt.codeVerifier),
    ("code_challenge", .str attempt.codeChallenge),
    ("code_challenge_method", .str attempt.challengeMethod)]

/-- An attempt as a JSON document. -/
def text (attempt : LoginAttempt) : String := attempt.toJson.render Json.compact

end LoginAttempt

end LoginGate
