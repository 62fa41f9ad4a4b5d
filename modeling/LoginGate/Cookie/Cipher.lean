import LoginGate.Base64.Canonical
import LoginGate.Cookie.Key
import LoginGate.Crypto.Gcm

/-!
# Encrypted cookie values

An encrypted value is the canonical base64 text of an initialisation vector, the ciphertext and its
tag.  As the text is canonical, two different values never frame the same ciphertext.

## Main definitions

* `CookieFault` : why a cookie value is refused.
* `CookieCipher.encrypt`, `CookieCipher.decrypt` : values under a key.

## Main results

* `CookieCipher.decrypt_eq_ok_iff` : what is accepted, and what it decrypts to.
-/

namespace LoginGate

/-- Why a cookie value is refused. -/
inductive CookieFault where
  /-- There is no session value. -/
  | noSession
  /-- There is no state value. -/
  | noAttempt
  /-- It is not base64. -/
  | malformed
  /-- It is not the one spelling of its bytes. -/
  | otherSpelling
  /-- It has no room for an initialisation vector and a ciphertext. -/
  | tooShort
  /-- Its tag is wrong. -/
  | notAuthentic
  /-- What is inside is not packed. -/
  | notPacked
  /-- What is inside is no session. -/
  | notSession
  /-- What is inside is no login attempt. -/
  | notAttempt
  deriving DecidableEq, Repr

/-- The words for a fault. -/
def CookieFault.message : CookieFault → String
  | .noSession => "Empty session cookie"
  | .noAttempt => "Empty state cookie"
  | .malformed => "Malformed base64 value"
  | .otherSpelling => "Non canonical base64 value"
  | .tooShort => "Encrypted value is too short"
  | .notAuthentic => "Unable to decrypt the value"
  | .notPacked => "Unable to decompress the session"
  | .notSession => "Invalid session content"
  | .notAttempt => "Invalid state content"

namespace CookieCipher

/-- Bytes of an initialisation vector. -/
def ivBytes : Nat := 12

/-- The text of an initialisation vector with what follows it. -/
def frame (iv data : Bytes) : String := Base64.encode .urlSafe (iv ++ data)

/-- Encrypts a content under an initialisation vector. -/
def encrypt (key : CookieKey) (iv content : Bytes) : String :=
  frame iv (Gcm.encrypt key.roundKeys iv content)

/-- The bytes of a canonical text. -/
def frameBytes (value : String) : Except CookieFault Bytes :=
  match Base64.Canonical.decode value with
  | .ok bytes => .ok bytes
  | .error .malformed => .error .malformed
  | .error .otherSpelling => .error .otherSpelling

/-- The initialisation vector of a value, and what follows it. -/
def unframe (value : String) : Except CookieFault (Bytes × Bytes) := do
  let bytes ← frameBytes value
  if bytes.length ≤ ivBytes then .error .tooShort
  else .ok (bytes.take ivBytes, bytes.drop ivBytes)

/-- The content of a value. -/
def decrypt (key : CookieKey) (value : String) : Except CookieFault Bytes := do
  let (iv, data) ← unframe value
  match Gcm.decrypt? key.roundKeys iv data with
  | some content => .ok content
  | none => .error .notAuthentic

theorem frameBytes_eq_ok_iff {value : String} {bytes : Bytes} :
    frameBytes value = .ok bytes ↔ Base64.Canonical.decode value = .ok bytes := by
  unfold frameBytes
  split <;> simp_all

/-- Accepted are the values with room for an initialisation vector whose tag is right. -/
theorem decrypt_eq_ok_iff {key : CookieKey} {value : String} {content : Bytes} :
    decrypt key value = .ok content ↔
      ∃ bytes, Base64.Canonical.decode value = .ok bytes ∧ ivBytes < bytes.length ∧
        Gcm.decrypt? key.roundKeys (bytes.take ivBytes) (bytes.drop ivBytes) = some content := by
  simp only [decrypt, unframe, bind, Except.bind, ← frameBytes_eq_ok_iff]
  cases frameBytes value with
  | error fault => simp
  | ok bytes =>
    by_cases h : bytes.length ≤ ivBytes
    · have : ¬ ivBytes < bytes.length := by omega
      simp [h, this]
    · have : ivBytes < bytes.length := by omega
      simp only [h, if_false, Except.ok.injEq, exists_eq_left', this, true_and]
      cases Gcm.decrypt? key.roundKeys (bytes.take ivBytes) (bytes.drop ivBytes) <;> simp

end CookieCipher

end LoginGate
