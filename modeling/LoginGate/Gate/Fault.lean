import LoginGate.Cookie.Cipher
import LoginGate.Jwt.Verifier
import LoginGate.Provider.TokenEndpoint
import LoginGate.Text.Quoted

/-!
# Failed logins

## Main definitions

* `LoginFault` : why a login fails.
* `LoginFault.denial` : how the request is denied then.
-/

namespace LoginGate

/-- Why a login fails. -/
inductive LoginFault where
  /-- The provider says so. -/
  | provider (error description : String)
  /-- The cookie with the login attempt is not there. -/
  | noAttempt (cookieName : String)
  /-- The cookie with the login attempt cannot be read. -/
  | attempt (cookieName : String) (fault : CookieFault)
  /-- The state that came back is not that of the attempt. -/
  | otherState (received : Option String)
  /-- There is no token. -/
  | endpoint (fault : TokenEndpointFault)
  /-- The token is refused. -/
  | token (fault : TokenFault)
  /-- The token names no user. -/
  | noUser (strategy : IdStrategy)
  deriving DecidableEq, Repr

/-- A state in a message. -/
def shownState : Option String → String
  | some text => Quoted.text text
  | none => "None"

/-- How a request is denied when its login fails. -/
def LoginFault.denial : LoginFault → Denial
  | .provider error description =>
    .make 400 error ("Authentication denied: " ++ error ++ " (" ++ description ++ ")")
  | .noAttempt cookieName =>
    .make 401 "authentication_failed"
      ("The cookie '" ++ cookieName ++ "' is not present, the authorization took too long or " ++
        "cookies are disabled")
  | .attempt cookieName fault =>
    .make 401 "invalid_state"
      ("The cookie '" ++ cookieName ++ "' is invalid (" ++ fault.message ++ ")")
  | .otherState received =>
    .make 401 "invalid_state"
      ("The provided state does not match the one issued with the authorization request " ++
        "(provided: " ++ shownState received ++ ")")
  | .endpoint fault => fault.denial
  | .token fault => .make 401 "invalid_token" fault.message
  | .noUser strategy =>
    .make 401 "authentication_failed"
      ("Your oidc provider returned an empty user id for the '" ++ strategy.name ++
        "' strategy, check the user-id setting and the requested scopes")

end LoginGate
