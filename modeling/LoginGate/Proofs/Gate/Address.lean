import LoginGate.Proofs.Gate.Binding
import LoginGate.Proofs.Text.NameMap

/-!
# The address at the provider

Users are led to the authorization endpoint with parameters behind its address. The endpoint may
have parameters of its own, and the login may bring more of them, which may take the place of those
that every login has. Whatever texts they are, the provider reads just these parameters.

## Main results

* `Gate.names_loginParameters` : what every login tells the provider.
* `Gate.insertAll_loginParameters` : it stands in front, with the values that a login brings for it.
* `Gate.authorizationUrl_carries` : the address begins with the endpoint, and what it carries.
-/

namespace LoginGate.Gate

theorem names_loginParameters (gate : Gate) :
    gate.loginParameters.map Prod.fst = ["client_id", "redirect_uri", "response_type", "scope"] :=
  rfl

/-- What every login tells the provider stands in front, and what a login brings besides follows in
order. A parameter that a login brings itself has the value that it brings. -/
theorem insertAll_loginParameters (gate : Gate) {more : NameMap}
    (h : (more.map Prod.fst).Nodup) :
    gate.loginParameters.insertAll more =
      [("client_id", more.getD "client_id" gate.settings.clientId),
        ("redirect_uri", more.getD "redirect_uri" gate.settings.redirectUri),
        ("response_type", more.getD "response_type" "code"),
        ("scope", more.getD "scope" (" ".intercalate gate.settings.scope))] ++
      more.filter fun pair => pair.1 ∉ ["client_id", "redirect_uri", "response_type", "scope"] := by
  have hnames : (gate.loginParameters.map Prod.fst).Nodup := by
    rw [names_loginParameters]
    decide
  rw [NameMap.insertAll_eq hnames h, names_loginParameters]
  rfl

/-- The address begins with the endpoint and carries the endpoint's own parameters, then those that
every login has, then those that this one brings. -/
theorem authorizationUrl_carries (gate : Gate) {more : NameMap} (h : (more.map Prod.fst).Nodup) :
    gate.metadata.authorizationEndpoint.toList <+: (gate.authorizationUrl more).toList ∧
      Form.decode (Url.afterMark (gate.authorizationUrl more).toList) =
        Form.decode (Url.afterMark gate.metadata.authorizationEndpoint.toList) ++
        [("client_id", more.getD "client_id" gate.settings.clientId),
          ("redirect_uri", more.getD "redirect_uri" gate.settings.redirectUri),
          ("response_type", more.getD "response_type" "code"),
          ("scope", more.getD "scope" (" ".intercalate gate.settings.scope))] ++
        more.filter fun pair =>
          pair.1 ∉ ["client_id", "redirect_uri", "response_type", "scope"] := by
  refine ⟨prefix_authorizationUrl gate more, ?_⟩
  rw [decode_authorizationUrl, insertAll_loginParameters gate h, List.append_assoc]

/-- An endpoint with parameters of its own. -/
def sampleTenant : Gate :=
  { sampleGate true with
    metadata :=
      { sampleMetadata with
        authorizationEndpoint := "https://id.example/login?tenant=a%20b&silent" } }

/-- A login replaces the scope and brings a hint with an ampersand in it. -/
theorem authorizationUrl_carries_of_sample :
    ([("login_hint", "a&scope=é"), ("scope", "openid")].map Prod.fst).Nodup ∧
      Form.decode (Url.afterMark
        (sampleTenant.authorizationUrl [("login_hint", "a&scope=é"), ("scope", "openid")]).toList) =
      [("tenant", "a b"), ("silent", ""), ("client_id", "site"),
        ("redirect_uri", "https://site.example/callback"), ("response_type", "code"),
        ("scope", "openid"), ("login_hint", "a&scope=é")] := by
  have hnames : ([("login_hint", "a&scope=é"), ("scope", "openid")].map Prod.fst).Nodup := by decide
  have hown : Form.decode (Url.afterMark sampleTenant.metadata.authorizationEndpoint.toList) =
      [("tenant", "a b"), ("silent", "")] := by decide +kernel
  refine ⟨hnames, ?_⟩
  rw [(authorizationUrl_carries sampleTenant hnames).2, hown]
  rfl

end LoginGate.Gate
