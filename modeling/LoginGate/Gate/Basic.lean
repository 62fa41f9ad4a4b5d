import LoginGate.Entropy
import LoginGate.Gate.Decision
import LoginGate.Groups
import LoginGate.Http.Answer
import LoginGate.Jwt.Verifier
import LoginGate.Provider.TokenEndpoint
import LoginGate.Settings.Cookies
import LoginGate.Settings.Support

/-!
# The gate

## Main definitions

* `Gate` : what stays the same from visit to visit.
* `Gate.make` : the gate for a provider.
* `GateMemory` : what changes.
* `Moment` : what the world around contributes to a visit.
* `Outcome` : what comes of a visit.
-/

namespace LoginGate

/-- What stays the same from visit to visit. -/
structure Gate where
  platform : Platform
  plan : CookiePlan
  metadata : ProviderMetadata
  /-- Whether login attempts are bound by a code verifier. -/
  usePkce : Bool
  /-- What tokens are checked against, if they are checked. -/
  verifier : Option Verifier
  entropy : Entropy

namespace Gate

/-- How often the keys of the provider are asked for before they count as unreachable. -/
def keyAttempts : Int := 3

/-- The verifier that the settings ask for. -/
def verifierFor (platform : Platform) (settings : CheckedSettings) (metadata : ProviderMetadata) :
    Except (Failure SettingsFault) (Option Verifier) :=
  match settings.tokenTrust with
  | .decoded => .ok none
  | .verified =>
    (Verifier.make platform metadata (.binary settings.httpTimeout) keyAttempts).map some

/-- The gate for a provider. -/
def make (platform : Platform) (settings : CheckedSettings) (metadata : ProviderMetadata)
    (usePkce : Bool) (entropy : Entropy) : Except (Failure SettingsFault) Gate :=
  match CookiePlan.ofSettings? settings with
  | none => .error (.breakdown .address)
  | some plan =>
    (verifierFor platform settings metadata).map fun verifier =>
      ⟨platform, plan, metadata, usePkce, verifier, entropy⟩

/-- The settings of a gate. -/
def settings (gate : Gate) : CheckedSettings := gate.plan.settings

/-- Where tokens come from. -/
def tokenEndpoint (gate : Gate) : TokenEndpoint where
  agent := gate.platform.agent
  url := gate.metadata.tokenEndpoint
  clientId := gate.settings.clientId
  redirectUri := gate.settings.redirectUri
  clientSecret := gate.settings.clientSecret
  timeout := .binary gate.settings.httpTimeout

end Gate

/-- What changes from visit to visit. -/
structure GateMemory where
  groups : GroupsCache := {}
  keys : Jwt.KeyStore := {}
  draws : Draws := {}

/-- What the world around contributes to a visit. -/
structure Moment where
  now : Instant
  /-- What the token endpoint answers if it is asked. -/
  tokenAnswer : Http.Answer
  /-- What the provider answers to requests for its keys, one after the other. -/
  keyAnswers : List Jwt.KeyAnswer

/-- What comes of a visit. -/
structure Outcome where
  /-- The decision, unless there was a breakdown. -/
  result : Except Breakdown Decision
  memory : GateMemory
  /-- The requests to the token endpoint. -/
  requests : List Http.Request := []
  /-- How often the keys were asked for. -/
  fetches : Nat := 0

end LoginGate
