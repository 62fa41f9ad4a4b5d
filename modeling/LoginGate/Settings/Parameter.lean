import LoginGate.Numeral.Read
import LoginGate.Settings.Basic
import LoginGate.Text.LowerCase
import LoginGate.Text.NameMap

/-!
# Settings from named parameters

Every setting has a parameter, and an environment variable that counts where the parameter is not
given.  A blank text counts as not given.

## Main definitions

* `Parameter` : a setting's parameter, its variable and its default.
* `Parameter.resolve` : the text of a parameter.
* `splitScope` : the scopes in a text.
* `Settings.load` : settings from parameters and environment.
-/

namespace LoginGate

/-- A setting's parameter. -/
structure Parameter where
  name : String
  /-- The environment variable that counts where the parameter is not given. -/
  environmentName : String
  /-- The text that counts where neither is given. -/
  default : Option String := none
  deriving DecidableEq, Repr

namespace Parameter

def issuerUri : Parameter := { name := "issuer-uri", environmentName := "AUTH_ISSUER_URI" }

def clientId : Parameter := { name := "client-id", environmentName := "AUTH_CLIENT_ID" }

def clientSecret : Parameter :=
  { name := "client-secret", environmentName := "AUTH_CLIENT_SECRET", default := some "" }

def redirectUri : Parameter := { name := "redirect-uri", environmentName := "AUTH_REDIRECT_URI" }

def scope : Parameter := { name := "scope", environmentName := "AUTH_SCOPE" }

def usePkce : Parameter :=
  { name := "use-pkce", environmentName := "AUTH_USE_PKCE", default := some "auto" }

def cookieIsSecure : Parameter :=
  { name := "cookie-is-secure", environmentName := "AUTH_COOKIE_IS_SECURE", default := some "true" }

def cookieMaxAgeMinutes : Parameter :=
  { name := "cookie-max-age-minutes"
    environmentName := "AUTH_COOKIE_MAX_AGE_MINUTES"
    default := some "720" }

def cookieSecret : Parameter :=
  { name := "cookie-cipher-secret-key", environmentName := "AUTH_COOKIE_ENCRYPTION_KEY" }

def userId : Parameter :=
  { name := "user-id", environmentName := "AUTH_USER_ID", default := some "email" }

def cookieName : Parameter :=
  { name := "cookie-name"
    environmentName := "AUTH_COOKIE_NAME"
    default := some "OIDC_AUTH_SESSION" }

def tokenVerification : Parameter :=
  { name := "token-verification"
    environmentName := "AUTH_TOKEN_VERIFICATION"
    default := some "local" }

def bypassPatterns : Parameter :=
  { name := "bypass-patterns"
    environmentName := "AUTH_BYPASS_PATTERNS"
    default := some ".*/.*\\.css,.*/.*\\.js,.*/.*\\.png" }

def postLoginPath : Parameter :=
  { name := "post-login-path", environmentName := "AUTH_POST_LOGIN_PATH", default := some "/" }

def httpTimeout : Parameter :=
  { name := "http-timeout-seconds"
    environmentName := "AUTH_HTTP_TIMEOUT_SECONDS"
    default := some "30" }

/-- All parameters. -/
def all : List Parameter := [
  issuerUri, clientId, clientSecret, redirectUri, scope, usePkce, cookieIsSecure,
  cookieMaxAgeMinutes, cookieSecret, userId, cookieName, tokenVerification, bypassPatterns,
  postLoginPath, httpTimeout]

end Parameter

/-- The text of a name, if it is there and not blank. -/
def given? (map : NameMap) (name : String) : Option String :=
  (map.get? name).filter (!isBlankText ·)

/-- A result, or a failure of the settings. -/
abbrev Loaded (α : Type) := Except (Failure SettingsFault) α

/-- The text of a parameter: as given, or from the environment, or the default; without the blanks
around it. -/
def Parameter.resolve (parameter : Parameter) (params environment : NameMap) : Loaded String :=
  let found :=
    ((given? params parameter.name).or (given? environment parameter.environmentName)).or
      parameter.default
  match found with
  | some text => .ok (trim text)
  | none => .error (.fault (.unset parameter.name parameter.environmentName))

/-- Whether a character separates scopes. -/
def isScopeSeparator (c : Char) : Bool := c = '+' || isBlank c

/-- The scopes in a text: the runs between plus signs and blanks. -/
def splitScope (text : String) : List String :=
  (runsOf isScopeSeparator text.toList).map String.ofList

/-- A text in lower case. -/
def lowerCase (text : String) : String := String.ofList (toLowerChars text.toList)

/-- Reads a truth value. -/
def Parameter.readBool (parameter : Parameter) (value : String) : Loaded Bool :=
  match lowerCase value with
  | "true" => .ok true
  | "false" => .ok false
  | _ => .error (.fault (.notBoolean parameter.name value))

/-- Reads a whole number. -/
def Parameter.readInt (parameter : Parameter) (value : String) : Loaded Int :=
  match Numeral.readInt? value with
  | some n => .ok n
  | none => .error (.fault (.notNumber parameter.name value))

/-- Reads a number. -/
def Parameter.readNumber (parameter : Parameter) (value : String) : Loaded Binary64 :=
  match Numeral.readBinary64? value with
  | some x => .ok x
  | none => .error (.fault (.notNumber parameter.name value))

/-- Reads one of some named values. -/
def Parameter.readNamed {α : Type} (parameter : Parameter) (named : List (String × α))
    (value : String) : Loaded α :=
  match named.lookup (lowerCase value) with
  | some a => .ok a
  | none => .error (.fault (.notOneOf parameter.name (named.map (·.1)) value))

/-- A text, unless it is empty. -/
def nonEmpty? (text : String) : Option String := if text.isEmpty then none else some text

/-- The patterns in a text, separated by commas; blank ones do not count. -/
def splitPatterns (text : String) : List String :=
  ((splitAt ',' text.toList).map String.ofList).filterMap fun piece =>
    if isBlankText piece then none else some (trim piece)

namespace Settings

/-- Reads settings from parameters and environment without checking them. -/
def ofParameters (params environment : NameMap) : Loaded Settings := do
  let resolve (parameter : Parameter) : Loaded String := parameter.resolve params environment
  let issuerUri ← resolve .issuerUri
  let clientId ← resolve .clientId
  let clientSecret ← resolve .clientSecret
  let redirectUri ← resolve .redirectUri
  let scope ← resolve .scope
  let pkce ← Parameter.usePkce.readNamed PkceMode.named (← resolve .usePkce)
  let cookieIsSecure ← Parameter.cookieIsSecure.readBool (← resolve .cookieIsSecure)
  let minutes ← Parameter.cookieMaxAgeMinutes.readInt (← resolve .cookieMaxAgeMinutes)
  let cookieSecret ← resolve .cookieSecret
  let idStrategy ← Parameter.userId.readNamed IdStrategy.named (← resolve .userId)
  let cookieName ← resolve .cookieName
  let tokenTrust ← Parameter.tokenVerification.readNamed TokenTrust.named
    (← resolve .tokenVerification)
  let patterns ← resolve .bypassPatterns
  let postLoginPath ← resolve .postLoginPath
  let httpTimeout ← Parameter.httpTimeout.readNumber (← resolve .httpTimeout)
  return {
    issuerUri, clientId, redirectUri, cookieSecret, pkce, cookieIsSecure, idStrategy, cookieName,
    tokenTrust, postLoginPath, httpTimeout
    scope := splitScope scope
    clientSecret := nonEmpty? clientSecret
    cookieMaxAgeMinutes := minutes
    bypassPatterns := splitPatterns patterns }

/-- Settings from parameters and environment, checked. -/
def load (platform : Platform) (params environment : NameMap) : Loaded CheckedSettings := do
  (← ofParameters params environment).check platform

end Settings

end LoginGate
