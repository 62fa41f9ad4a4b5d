import LoginGate.Cookie.Cipher
import LoginGate.Session.Basic
import LoginGate.Session.LoginAttempt
import LoginGate.Session.Packing

/-!
# Cookie values of sessions and login attempts

A session is written as JSON, packed and encrypted.  A login attempt is written as JSON and
encrypted.  Both use one key.

## Main definitions

* `Session.toCookieValue`, `Session.ofCookieValue` : the two directions for sessions.
* `LoginAttempt.toCookieValue`, `LoginAttempt.ofCookieValue` : the two directions for attempts.
-/

namespace LoginGate

namespace Session

/-- The cookie value of a session under an initialisation vector. -/
def toCookieValue (key : CookieKey) (iv : Bytes) (session : Session) : String :=
  CookieCipher.encrypt key iv (Packing.pack (Utf8.encode session.text))

/-- The session of a decrypted content. -/
def ofContent (content : Bytes) : Except CookieFault Session :=
  match Packing.unpack? content with
  | none => .error .notPacked
  | some document =>
    match Schema.document reader document with
    | .valid session => .ok session
    | .invalid _ => .error .notSession

/-- The session of a cookie value. -/
def ofCookieValue (key : CookieKey) (value : String) : Except CookieFault Session :=
  if value.isEmpty then .error .noSession
  else do ofContent (← CookieCipher.decrypt key value)

end Session

namespace LoginAttempt

/-- The cookie value of an attempt under an initialisation vector. -/
def toCookieValue (key : CookieKey) (iv : Bytes) (attempt : LoginAttempt) : String :=
  CookieCipher.encrypt key iv (Utf8.encode attempt.text)

/-- The attempt of a decrypted content. -/
def ofContent (content : Bytes) : Except CookieFault LoginAttempt :=
  match Schema.document reader content with
  | .valid attempt => .ok attempt
  | .invalid _ => .error .notAttempt

/-- The attempt of a cookie value. -/
def ofCookieValue (key : CookieKey) (value : String) : Except CookieFault LoginAttempt :=
  if value.isEmpty then .error .noAttempt
  else do ofContent (← CookieCipher.decrypt key value)

end LoginAttempt

end LoginGate
