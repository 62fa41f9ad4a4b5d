import LoginGate.Gate.Basic

/-!
# The way to the provider

## Main definitions

* `Gate.authorizationUrl` : the address at the provider where users log in.
* `Gate.leadToProvider` : the decision to lead a user there.
-/

namespace LoginGate

namespace Gate

/-- What the provider is told in every case. -/
def loginParameters (gate : Gate) : NameMap := [
  ("client_id", gate.settings.clientId), ("redirect_uri", gate.settings.redirectUri),
  ("response_type", "code"), ("scope", gate.settings.scopeText)]

/-- The address at the provider where users log in.  What the provider is told besides may replace
what it is told in every case. -/
def authorizationUrl (gate : Gate) (more : NameMap) : String :=
  let endpoint := gate.metadata.authorizationEndpoint
  endpoint ++ (if '?' ∈ endpoint.toList then "&" else "?") ++
    Form.encode (gate.loginParameters.insertAll more)

/-- What the provider is told about a login attempt. -/
def attemptParameters (attempt : LoginAttempt) : NameMap := [
  ("state", attempt.state), ("code_challenge", attempt.codeChallenge),
  ("code_challenge_method", attempt.challengeMethod)]

/-- The login attempt that is next in a count of draws. -/
def nextAttempt (gate : Gate) (draws : Draws) : LoginAttempt :=
  .ofRandom (gate.entropy.verifier draws.verifiers) (gate.entropy.state draws.states)

/-- The draws after those for a login attempt with its cookie. -/
def afterAttempt (draws : Draws) : Draws :=
  ⟨draws.ivs + 1, draws.verifiers + 1, draws.states + 1⟩

/-- Leads a user to the provider.  A login attempt is kept in a cookie. -/
def leadToProvider (gate : Gate) (memory : GateMemory) (cookies : List Cookie) : Outcome :=
  if gate.usePkce then
    let attempt := gate.nextAttempt memory.draws
    let cookie := gate.plan.state (gate.entropy.iv memory.draws.ivs) attempt
    { result := .ok (.redirect (gate.authorizationUrl (attemptParameters attempt))
        (cookies ++ [cookie]) false)
      memory := { memory with draws := afterAttempt memory.draws } }
  else { result := .ok (.redirect (gate.authorizationUrl []) cookies false), memory }

end Gate

end LoginGate
