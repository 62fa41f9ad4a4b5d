import LoginGate.Gate.Basic
import LoginGate.Gate.Fault

/-!
# The course of a visit

What is to be done follows from the visit and the time alone.  The provider has a say only in what
comes of it.

## Main definitions

* `Course` : what is to be done.
* `Gate.course` : what is to be done in a visit.
-/

namespace LoginGate

/-- What is to be done in a visit. -/
inductive Course where
  /-- Let it pass: the path is open to everybody. -/
  | pass
  /-- Forward it with the session at hand. -/
  | forward (session : Session) (cookies : List Cookie)
  /-- Renew the session at hand, and forward it. -/
  | renew (session : Session)
  /-- Exchange a code for a session. -/
  | exchange (code : String) (verifier : Option String) (cookies : List Cookie)
  /-- Lead the user to the provider. -/
  | login (cookies : List Cookie)
  /-- Deny it. -/
  | deny (fault : LoginFault) (cookies : List Cookie)
  /-- There is no way to go on. -/
  | stuck (breakdown : Breakdown)
  deriving DecidableEq, Repr

namespace Gate

/-- What is to be done with a session. -/
def courseOfSession (gate : Gate) (now : Instant) (session : Session) : Course :=
  match session.isExpired? now with
  | none => .stuck .zonelessExpiry
  | some false => .forward session []
  | some true =>
    if session.hasRefreshToken then .renew session
    else .forward session [gate.plan.clearSession]

/-- The login attempt that a callback completes. -/
def completedAttempt (gate : Gate) (visit : Visit) : Except LoginFault LoginAttempt :=
  let name := gate.settings.stateCookieName
  match visit.cookie? name with
  | none => .error (.noAttempt name)
  | some value =>
    match LoginAttempt.ofCookieValue gate.settings.key value with
    | .error fault => .error (.attempt name fault)
    | .ok attempt =>
      let received := visit.query.get? "state"
      if attempt.matchesState received then .ok attempt else .error (.otherState received)

/-- The cookies of a callback: the login attempt is over. -/
def callbackCookies (gate : Gate) (visit : Visit) : List Cookie :=
  if gate.usePkce || (visit.cookie? gate.settings.stateCookieName).isSome then
    [gate.plan.clearState]
  else []

/-- What is to be done when the provider leads a user back with a code. -/
def courseOfCallback (gate : Gate) (visit : Visit) (code : String) (cookies : List Cookie) :
    Course :=
  let cookies := cookies ++ gate.callbackCookies visit
  if gate.usePkce then
    match gate.completedAttempt visit with
    | .ok attempt => .exchange code (some attempt.codeVerifier) cookies
    | .error fault => .deny fault cookies
  else .exchange code none cookies

/-- What is to be done without a session. -/
def courseOfLogin (gate : Gate) (visit : Visit) (cookies : List Cookie) : Course :=
  match visit.parameter? "error" with
  | some error => .deny (.provider error (visit.query.getD "error_description" "")) cookies
  | none =>
    match visit.parameter? "code" with
    | some code => gate.courseOfCallback visit code cookies
    | none => .login cookies

/-- What is to be done in a visit. -/
def course (gate : Gate) (now : Instant) (visit : Visit) : Course :=
  if gate.settings.isBypassed visit.path then .pass
  else
    match visit.cookie? gate.settings.cookieName with
    | none => gate.courseOfLogin visit []
    | some value =>
      match Session.ofCookieValue gate.settings.key value with
      | .ok session => gate.courseOfSession now session
      | .error _ => gate.courseOfLogin visit [gate.plan.clearSession]

end Gate

end LoginGate
