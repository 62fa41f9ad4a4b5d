import LoginGate.Breakdown
import LoginGate.Cookie.Key
import LoginGate.Numeral.Binary64
import LoginGate.Pattern.Reader
import LoginGate.Platform
import LoginGate.Session.Identity
import LoginGate.Url.Reference

/-!
# Settings

## Main definitions

* `Settings` : what an administrator sets.
* `SettingsFault` : what can be wrong with settings, and the words for it.
* `CheckedSettings` : settings that have passed every check, with what the checks found.
* `Settings.check` : the checks in their order.
* `CheckedSettings.isBypassed` : whether a path is open to everybody.
-/

namespace LoginGate

/-- Whether login attempts are bound by a code verifier. -/
inductive PkceMode where
  | always
  | never
  /-- As the provider offers it. -/
  | auto
  deriving DecidableEq, Repr

namespace PkceMode

/-- The name of a mode. -/
def name : PkceMode → String
  | .always => "true"
  | .never => "false"
  | .auto => "auto"

/-- All modes by their names. -/
def named : List (String × PkceMode) := [always, never, auto].map fun m => (m.name, m)

/-- The mode of a name; any other text leaves it to the provider. -/
def ofText (text : String) : PkceMode := (named.lookup text).getD .auto

/-- Whether login attempts are bound, given the ways to hash that a provider has. -/
def isOn (mode : PkceMode) (methods : List String) : Bool :=
  match mode with
  | .always => true
  | .never => false
  | .auto => !methods.isEmpty

end PkceMode

/-- How access tokens are read. -/
inductive TokenTrust where
  /-- Without a look at the signature. -/
  | decoded
  /-- With a check of the signature. -/
  | verified
  deriving DecidableEq, Repr

namespace TokenTrust

/-- The name of a way to read tokens. -/
def name : TokenTrust → String
  | .decoded => "local"
  | .verified => "verified"

/-- Both ways by their names. -/
def named : List (String × TokenTrust) :=
  [decoded, verified].map fun t => (t.name, t)

end TokenTrust

/-- What an administrator sets. -/
structure Settings where
  issuerUri : String
  clientId : String
  redirectUri : String
  scope : List String
  cookieSecret : String
  clientSecret : Option String := none
  pkce : PkceMode := .auto
  cookieIsSecure : Bool := true
  cookieMaxAgeMinutes : Int := 720
  idStrategy : IdStrategy := .email
  cookieName : String := "OIDC_AUTH_SESSION"
  tokenTrust : TokenTrust := .decoded
  bypassPatterns : List String := [".*/.*\\.css", ".*/.*\\.js", ".*/.*\\.png"]
  postLoginPath : String := "/"
  /-- For how many seconds an answer from the provider is awaited. -/
  httpTimeout : Binary64 := .ofInt 30
  deriving DecidableEq

/-- What can be wrong with settings. -/
inductive SettingsFault where
  /-- A text that must not be blank. -/
  | blank (name : String)
  /-- No scope. -/
  | noScope
  /-- Secure cookies for an address without encryption. -/
  | insecureRedirect (uri : String)
  | maxAge
  | timeout
  /-- A cookie secret of a wrong size. -/
  | keySize (size : Nat)
  | pattern (text message : String)
  /-- Neither a parameter nor its variable is set. -/
  | unset (name environmentName : String)
  | notBoolean (name value : String)
  | notNumber (name value : String)
  | notOneOf (name : String) (allowed : List String) (value : String)
  /-- The provider does not offer some of the scopes. -/
  | unsupportedScopes (scopes supported : List String)
  /-- Login attempts are not bound, and there is no client secret either. -/
  | unboundExchange (mode : PkceMode) (methods : List String)
  /-- Tokens are to be verified, and the provider publishes no keys. -/
  | noKeySet
  deriving DecidableEq, Repr

/-- The words for a fault. -/
def SettingsFault.message : SettingsFault → String
  | .blank name => "The parameter <" ++ name ++ "> should not be blank"
  | .noScope => "The parameter <scope> should not be blank"
  | .insecureRedirect uri =>
    "The redirect uri '" ++ uri ++ "' is not served over https, " ++
      "the cookie can not be marked as secure (set cookie-is-secure=false)"
  | .maxAge => "The parameter <cookie-max-age-minutes> should be a positive number"
  | .timeout => "The parameter <http-timeout-seconds> should be a positive number"
  | .keySize size =>
    "The cookie encryption key must be 16, 24 or 32 bytes long (got " ++ toString size ++
      " bytes), a 32 characters key selects AES-256"
  | .pattern text message => "Invalid bypass pattern '" ++ text ++ "': " ++ message
  | .unset name environmentName =>
    "The parameter <" ++ name ++ "> should not be null or blank, set it " ++
      "explicitly or through the environment variable " ++ environmentName
  | .notBoolean name value =>
    "The parameter <" ++ name ++ "> should be 'true' or 'false', got '" ++ value ++ "'"
  | .notNumber name value =>
    "The parameter <" ++ name ++ "> should be a number, got '" ++ value ++ "'"
  | .notOneOf name allowed value =>
    "The parameter <" ++ name ++ "> should be one of " ++ ", ".intercalate allowed ++ ", got '" ++
      value ++ "'"
  | .unsupportedScopes scopes supported =>
    "The requested scopes " ++ Quoted.list scopes ++ " are not supported by the provider, " ++
      "supported scopes are " ++ Quoted.list supported
  | .unboundExchange mode methods =>
    "PKCE is disabled (use-pkce=" ++ mode.name ++ ", provider challenge methods: " ++
      Quoted.list methods ++ "), a client secret is required for a confidential client"
  | .noKeySet => "The provider does not publish a jwks_uri, tokens can not be verified"

/-- Settings that have passed every check. -/
structure CheckedSettings extends Settings where
  /-- The key of the cookie secret. -/
  key : CookieKey
  /-- The bypass patterns, ready to match. -/
  bypass : List Pattern.Compiled

namespace Settings

/-- The scopes in one text. -/
def scopeText (settings : Settings) : String := " ".intercalate settings.scope

/-- The name of the cookie for login attempts. -/
def stateCookieName (settings : Settings) : String := settings.cookieName ++ "_STATE"

/-- The lifetime of session cookies in seconds. -/
def cookieMaxAgeSeconds (settings : Settings) : Int := settings.cookieMaxAgeMinutes * 60

/-! ### Checks -/

/-- Refuses with a fault unless a condition holds. -/
def ensure (condition : Bool) (fault : SettingsFault) : Except (Failure SettingsFault) Unit :=
  if condition then .ok () else .error (.fault fault)

/-- Refuses a blank text. -/
def ensureNotBlank (name text : String) : Except (Failure SettingsFault) Unit :=
  ensure (!isBlankText text) (.blank name)

/-- Refuses secure cookies for an address without encryption. -/
def ensureSecure (settings : Settings) : Except (Failure SettingsFault) Unit :=
  if settings.cookieIsSecure then
    match Url.split? settings.redirectUri with
    | none => .error (.breakdown .address)
    | some parts => ensure parts.isHttps (.insecureRedirect settings.redirectUri)
  else .ok ()

/-- The key of the cookie secret. -/
def cookieKey (settings : Settings) : Except (Failure SettingsFault) CookieKey :=
  match CookieKey.ofSecret settings.cookieSecret with
  | .ok key => .ok key
  | .error size => .error (.fault (.keySize size))

/-- A bypass pattern, ready to match. -/
def compilePattern (platform : Platform) (text : String) :
    Except (Failure SettingsFault) Pattern.Compiled :=
  if !platform.holdsPattern text then .error (.breakdown .patternNesting)
  else
    match Pattern.compile text with
    | .ok pattern => .ok pattern
    | .error (.faulty fault) => .error (.fault (.pattern text (fault.message text)))
    | .error .repeatOutOfRange => .error (.breakdown .patternCount)
    | .error .scriptFlagsClash => .error (.breakdown .patternFlags)

/-- The checks in their order. -/
def check (platform : Platform) (settings : Settings) :
    Except (Failure SettingsFault) CheckedSettings := do
  ensureNotBlank "issuer_uri" settings.issuerUri
  ensureNotBlank "client_id" settings.clientId
  ensureNotBlank "redirect_uri" settings.redirectUri
  ensureNotBlank "cookie_name" settings.cookieName
  ensure (!settings.scope.isEmpty) .noScope
  ensureSecure settings
  ensure (0 < settings.cookieMaxAgeMinutes) .maxAge
  ensure settings.httpTimeout.isPositiveFinite .timeout
  let key ← settings.cookieKey
  let bypass ← settings.bypassPatterns.mapM (compilePattern platform)
  return { settings with key := key, bypass := bypass }

end Settings

/-- Whether a path is open to everybody: one of the patterns matches all of it. -/
def CheckedSettings.isBypassed (settings : CheckedSettings) (path : String) : Bool :=
  settings.bypass.any (·.matchesAll path)

end LoginGate
