import LoginGate.Provider.Metadata
import LoginGate.Settings.Basic

/-!
# What a provider supports

## Main definitions

* `unsupportedScopes` : the requested scopes that a provider does not offer.
* `Settings.support` : whether login attempts are bound by a code verifier with this provider, or
  why the settings do not go with it.
-/

namespace LoginGate

/-- The requested scopes that are not on offer, in the order of the request. -/
def unsupportedScopes (supported requested : List String) : List String :=
  requested.filter (!supported.contains ·)

/-- How login goes with a provider. -/
structure Support where
  /-- Whether login attempts are bound by a code verifier. -/
  usePkce : Bool
  /-- Whether the way to hash the verifier is one that the provider does not name. -/
  warned : Bool
  deriving DecidableEq, Repr

namespace Settings

/-- Whether there is a client secret. -/
def hasClientSecret (settings : Settings) : Bool := settings.clientSecret.any (!·.isEmpty)

/-- How login goes with a provider.  A provider that names no scopes may have all of them. -/
def support (settings : Settings) (metadata : ProviderMetadata) : Except SettingsFault Support :=
  let supported := metadata.scopesSupported.toList
  let methods := metadata.challengeMethods
  let missing := unsupportedScopes supported settings.scope
  let usePkce := settings.pkce.isOn methods.toList
  if !supported.isEmpty && !missing.isEmpty then .error (.unsupportedScopes missing supported)
  else if !usePkce && !settings.hasClientSecret then
    .error (.unboundExchange settings.pkce methods.toList)
  else .ok ⟨usePkce, usePkce && settings.pkce == .auto && !methods.contains "S256"⟩

end Settings

end LoginGate
