import LoginGate.Cookie.Basic
import LoginGate.Session.CookieValue
import LoginGate.Settings.Basic

/-!
# The two cookies

A session cookie keeps a session, a state cookie keeps a login attempt.  Both are cleared by a
cookie without value.

## Main definitions

* `CookiePlan` : what all cookies of the gate have in common.
* `CookiePlan.session`, `CookiePlan.clearSession` : the cookie for sessions.
* `CookiePlan.state`, `CookiePlan.clearState` : the cookie for login attempts.
-/

namespace LoginGate

/-- What the cookies of a gate are made from. -/
structure CookiePlan where
  settings : CheckedSettings
  /-- The host that the browser sends them to. -/
  domain : Option String

namespace CookiePlan

/-- Seconds that a login attempt may take. -/
def attemptSeconds : Int := 300

/-- The plan for checked settings; the host is that of the redirect address. -/
def ofSettings? (settings : CheckedSettings) : Option CookiePlan :=
  (Url.split? settings.redirectUri).map fun parts => ⟨settings, parts.host?⟩

/-- A session cookie with a value. -/
def sessionCookie (plan : CookiePlan) (value : String) : Cookie :=
  { name := plan.settings.cookieName
    value
    maxAge := if value.isEmpty then 0 else plan.settings.cookieMaxAgeSeconds
    domain := plan.domain
    secure := plan.settings.cookieIsSecure
    sameSite := .strict }

/-- A state cookie with a value.  It has to come back when the provider leads the user here. -/
def stateCookie (plan : CookiePlan) (value : String) : Cookie :=
  { name := plan.settings.stateCookieName
    value
    maxAge := if value.isEmpty then 0 else attemptSeconds
    domain := plan.domain
    secure := plan.settings.cookieIsSecure
    sameSite := .lax }

/-- The cookie that keeps a session. -/
def session (plan : CookiePlan) (iv : Bytes) (session : Session) : Cookie :=
  plan.sessionCookie (session.toCookieValue plan.settings.key iv)

/-- The cookie that clears the session. -/
def clearSession (plan : CookiePlan) : Cookie := plan.sessionCookie ""

/-- The cookie that keeps a login attempt. -/
def state (plan : CookiePlan) (iv : Bytes) (attempt : LoginAttempt) : Cookie :=
  plan.stateCookie (attempt.toCookieValue plan.settings.key iv)

/-- The cookie that clears the login attempt. -/
def clearState (plan : CookiePlan) : Cookie := plan.stateCookie ""

end CookiePlan

end LoginGate
