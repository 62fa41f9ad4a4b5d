import LoginGate.Gate.Basic
import LoginGate.Provider.Discovery

/-!
# Startup

## Main definitions

* `StartupFailure` : why there is no gate.
* `Gate.discoveryAddress?` : where a provider is asked for what it publishes.
* `Gate.discover` : the gate for what a provider publishes.
-/

namespace LoginGate

/-- Why there is no gate. -/
inductive StartupFailure where
  | discovery (fault : DiscoveryFault)
  | settings (fault : SettingsFault)
  | breakdown (breakdown : Breakdown)
  deriving DecidableEq, Repr

namespace StartupFailure

/-- A failure of settings as a failure to start. -/
def ofSettings : Failure SettingsFault → StartupFailure
  | .fault fault => .settings fault
  | .breakdown cause => .breakdown cause

/-- A failure of discovery as a failure to start. -/
def ofDiscovery : Failure DiscoveryFault → StartupFailure
  | .fault fault => .discovery fault
  | .breakdown cause => .breakdown cause

end StartupFailure

namespace Gate

/-- What comes of a startup: the gate, and the requests that were sent for it. -/
structure Startup where
  result : Except StartupFailure Gate
  requests : List Http.Request := []

/-- The address at which the provider is asked for its document, if a request can be sent there. -/
def discoveryAddress? (platform : Platform) (settings : CheckedSettings) : Option String :=
  platform.agent.address? (wellKnownUrl settings.issuerUri) (.binary settings.httpTimeout)

/-- The gate for a provider's document. -/
def ofMetadata (platform : Platform) (settings : CheckedSettings) (metadata : ProviderMetadata)
    (entropy : Entropy) : Except StartupFailure Gate :=
  match settings.support metadata with
  | .error fault => .error (.settings fault)
  | .ok support => (make platform settings metadata support.usePkce entropy).mapError .ofSettings

/-- The gate for what a provider publishes, who would answer in the given way. -/
def discover (platform : Platform) (settings : CheckedSettings) (answer : Http.Answer)
    (entropy : Entropy) : Startup :=
  let asked :=
    Discovery.ask platform.agent settings.issuerUri (.binary settings.httpTimeout) answer
  { result :=
      match asked.result with
      | .error failure => .error (.ofDiscovery failure)
      | .ok metadata => ofMetadata platform settings metadata entropy
    requests := asked.requests }

end Gate

end LoginGate
