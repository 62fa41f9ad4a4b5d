import LoginGate.Gate.Startup
import LoginGate.Proofs.Gate.Authenticity

/-!
# Startup

A gate is made once, from settings and from what the provider publishes about itself. What goes
wrong then is said at once and to the administrator, and not later to a visitor. The provider is
asked with one request, and whatever it answers, startup takes its document and compares it with
the settings, in a fixed order: the scopes, how the exchange of codes is bound, the redirect
address, the keys. The first thing that is not in order stops it.

Each step has two predicates, for what it takes and for why it fails, and a lemma that one of the
two holds. Put together, `Gate.Opens` is what it takes for a gate and `Gate.Stops` why there is
none.

## Main definitions

* `Discovery.Publishes`, `Discovery.Fails` : an answer is a document, or why it is none.
* `Settings.Suits`, `Settings.Clashes` : settings go with a provider, or why they do not.
* `ProviderMetadata.HasKeys`, `ProviderMetadata.LacksKeys` : there are keys, or why there are none.
* `Gate.Opens`, `Gate.Stops` : what it takes for a gate, and why there is none.
* `Gate.Refuses` : why there is none where all addresses are in order.

## Main results

* `Gate.discover_eq_error_iff` : a startup fails exactly by what stops it.
* `Gate.opens_of_discover` : a gate comes out of a startup with all that it takes.
* `Gate.starts_exactly` : a startup is exact.
-/

namespace LoginGate

/-! ### Places and documents -/

/-- An address on the web: it can be split into its parts, and its scheme is one of the two. -/
def Url.IsWeb (url : String) : Prop :=
  ∃ parts, Url.split? url = some parts ∧
    (parts.scheme = "http".toList ∨ parts.scheme = "https".toList)

theorem Url.isWeb_iff {url : String} {parts : Url.Parts} (hparts : Url.split? url = some parts) :
    (parts.scheme = "http".toList || parts.scheme = "https".toList) ↔ Url.IsWeb url := by
  rw [Url.IsWeb, hparts, Bool.or_eq_true, decide_eq_true_iff, decide_eq_true_iff]
  simp only [Option.some.injEq, exists_eq_left']

namespace ProviderMetadata

/-- A provider publishes its keys at an address. -/
def PublishesKeysAt (metadata : ProviderMetadata) (url : String) : Prop :=
  metadata.jwksUri = some url ∧ url ≠ ""

theorem filter_jwksUri_eq_some_iff {metadata : ProviderMetadata} {url : String} :
    metadata.jwksUri.filter (!·.isEmpty) = some url ↔ metadata.PublishesKeysAt url := by
  simp [PublishesKeysAt, Option.filter_eq_some_iff]

end ProviderMetadata

namespace Discovery

variable {issuerUri : String} {answer : Http.Answer} {metadata : ProviderMetadata}
  {fault : DiscoveryFault}

/-- An answer of success is the document of a provider. -/
def Publishes (answer : Http.Answer) (metadata : ProviderMetadata) : Prop :=
  ∃ message, answer = .message message ∧ message.isSuccess ∧
    Schema.document ProviderMetadata.reader message.body = .valid metadata

/-- Why an answer is no document of a provider. -/
inductive Fails (issuerUri : String) (answer : Http.Answer) : DiscoveryFault → Prop
  /-- There is no answer. -/
  | unreachable {why : String} (hanswer : answer = .none why) :
      Fails issuerUri answer (.unreachable (wellKnownUrl issuerUri) why)
  /-- The answer is no success. -/
  | refused {message : Http.Message} (hanswer : answer = .message message)
      (hstatus : message.isSuccess = false) :
      Fails issuerUri answer (.refused (wellKnownUrl issuerUri) message.status message.reason)
  /-- The body is no document of a provider. -/
  | unreadable {message : Http.Message} {issues : List Schema.Issue}
      (hanswer : answer = .message message) (hstatus : message.isSuccess)
      (hbody : Schema.document ProviderMetadata.reader message.body = .invalid issues) :
      Fails issuerUri answer (.unreadable (wellKnownUrl issuerUri) issues)

theorem read_eq_ok_iff : read issuerUri answer = .ok metadata ↔ Publishes answer metadata := by
  cases answer with
  | none why => simp [read, Publishes]
  | message message =>
    simp only [read, Publishes, Http.Answer.message.injEq, exists_eq_left']
    cases message.isSuccess with
    | false => simp
    | true => cases Schema.document ProviderMetadata.reader message.body <;> simp

theorem read_eq_error_iff :
    read issuerUri answer = .error fault ↔ Fails issuerUri answer fault := by
  constructor
  · intro h
    cases answer with
    | none why =>
      cases h
      exact .unreachable rfl
    | message message =>
      simp only [read] at h
      cases hstatus : message.isSuccess with
      | false =>
        rw [hstatus] at h
        cases h
        exact .refused rfl hstatus
      | true =>
        cases hbody : Schema.document ProviderMetadata.reader message.body with
        | valid metadata => simp [hstatus, hbody] at h
        | invalid issues =>
          simp only [hstatus, hbody] at h
          cases h
          exact .unreadable rfl hstatus hbody
  · intro h
    cases h with
    | unreachable hanswer => rw [hanswer, read]
    | refused hanswer hstatus => simp [hanswer, read, hstatus]
    | unreadable hanswer hstatus hbody => simp [hanswer, read, hstatus, hbody]

end Discovery

/-! ### Settings and documents -/

namespace Settings

variable {settings : Settings} {metadata : ProviderMetadata} {support : Support}
  {fault : SettingsFault}

/-- A provider offers every scope that is requested, or names none at all. -/
def ScopesOffered (settings : Settings) (metadata : ProviderMetadata) : Prop :=
  metadata.scopesSupported.toList = [] ∨
    ∀ scope ∈ settings.scope, scope ∈ metadata.scopesSupported.toList

/-- The requested scopes that a provider does not offer, in the order of the request. -/
def scopesMissing (settings : Settings) (metadata : ProviderMetadata) : List String :=
  settings.scope.filter (· ∉ metadata.scopesSupported.toList)

/-- Login attempts are bound by a code verifier: always, or as the provider hashes it. -/
def BindsAttempts (settings : Settings) (metadata : ProviderMetadata) : Prop :=
  settings.pkce = .always ∨
    (settings.pkce = .auto ∧ metadata.challengeMethods.toList ≠ [])

/-- There is a client secret. -/
def HasSecret (settings : Settings) : Prop :=
  ∃ secret, settings.clientSecret = some secret ∧ secret ≠ ""

theorem hasClientSecret_iff : settings.hasClientSecret ↔ settings.HasSecret := by
  simp [hasClientSecret, HasSecret, Option.any_eq_true]

theorem isOn_iff : settings.pkce.isOn metadata.challengeMethods.toList ↔
    settings.BindsAttempts metadata := by
  rw [BindsAttempts]
  cases settings.pkce <;> simp [PkceMode.isOn]

theorem unsupportedScopes_eq :
    unsupportedScopes metadata.scopesSupported.toList settings.scope =
      settings.scopesMissing metadata := by
  simp [unsupportedScopes, scopesMissing]

theorem scopesMissing_eq_nil_iff : settings.scopesMissing metadata = [] ↔
    ∀ scope ∈ settings.scope, scope ∈ metadata.scopesSupported.toList := by
  simp [scopesMissing, List.filter_eq_nil_iff]

/-- Why settings do not go with a provider. -/
inductive Clashes (settings : Settings) (metadata : ProviderMetadata) : SettingsFault → Prop
  /-- The provider does not offer every scope. -/
  | scopes (hscopes : ¬ settings.ScopesOffered metadata) :
      Clashes settings metadata (.unsupportedScopes (settings.scopesMissing metadata)
        metadata.scopesSupported.toList)
  /-- There is neither a code verifier nor a client secret. -/
  | exchange (hscopes : settings.ScopesOffered metadata)
      (hbinds : ¬ settings.BindsAttempts metadata) (hsecret : ¬ settings.HasSecret) :
      Clashes settings metadata (.unboundExchange settings.pkce metadata.challengeMethods.toList)

/-- Settings go with a provider: it offers the scopes, and there is a code verifier or a client
secret. -/
structure Suits (settings : Settings) (metadata : ProviderMetadata) : Prop where
  scopes : settings.ScopesOffered metadata
  exchange : settings.BindsAttempts metadata ∨ settings.HasSecret

theorem support_of_not_offered (h : ¬ settings.ScopesOffered metadata) :
    settings.support metadata = .error (.unsupportedScopes (settings.scopesMissing metadata)
      metadata.scopesSupported.toList) := by
  rw [ScopesOffered, ← scopesMissing_eq_nil_iff, not_or] at h
  simp [support, unsupportedScopes_eq, h.1, h.2]

theorem isFine_of_offered (h : settings.ScopesOffered metadata) :
    (!metadata.scopesSupported.toList.isEmpty && !(unsupportedScopes
      metadata.scopesSupported.toList settings.scope).isEmpty) = false := by
  rw [ScopesOffered, ← scopesMissing_eq_nil_iff, ← unsupportedScopes_eq] at h
  rcases h with h | h <;> simp [h]

theorem support_of_unbound (hscopes : settings.ScopesOffered metadata)
    (hbinds : ¬ settings.BindsAttempts metadata) (hsecret : ¬ settings.HasSecret) :
    settings.support metadata =
      .error (.unboundExchange settings.pkce metadata.challengeMethods.toList) := by
  rw [← isOn_iff, Bool.not_eq_true] at hbinds
  rw [← hasClientSecret_iff, Bool.not_eq_true] at hsecret
  simp [support, isFine_of_offered hscopes, hbinds, hsecret]

theorem support_of_suits (h : settings.Suits metadata) :
    ∃ support, settings.support metadata = .ok support ∧
      (support.usePkce ↔ settings.BindsAttempts metadata) := by
  have hexchange := h.exchange
  rw [← isOn_iff, ← hasClientSecret_iff] at hexchange
  have hbound : (!settings.pkce.isOn metadata.challengeMethods.toList &&
      !settings.hasClientSecret) = false := by
    rcases hexchange with hbinds | hsecret
    · simp [hbinds]
    · simp [hsecret]
  simp only [support, isFine_of_offered h.scopes, hbound, Bool.false_eq_true, if_false]
  exact ⟨_, rfl, isOn_iff⟩

/-- Settings go with a provider, or they clash with it. -/
theorem suits_or_clashes (settings : Settings) (metadata : ProviderMetadata) :
    settings.Suits metadata ∨ ∃ fault, settings.Clashes metadata fault := by
  by_cases hscopes : settings.ScopesOffered metadata
  · by_cases hexchange : settings.BindsAttempts metadata ∨ settings.HasSecret
    · exact .inl ⟨hscopes, hexchange⟩
    · exact .inr ⟨_, .exchange hscopes (not_or.mp hexchange).1 (not_or.mp hexchange).2⟩
  · exact .inr ⟨_, .scopes hscopes⟩

theorem support_of_clashes (h : settings.Clashes metadata fault) :
    settings.support metadata = .error fault := by
  cases h with
  | scopes hscopes => exact support_of_not_offered hscopes
  | exchange hscopes hbinds hsecret => exact support_of_unbound hscopes hbinds hsecret

end Settings

/-! ### Verifiers -/

/-- Why there is no verifier for a provider. -/
inductive ProviderMetadata.LacksKeys (metadata : ProviderMetadata) :
    Failure SettingsFault → Prop
  /-- The provider publishes no keys. -/
  | unpublished (hkeys : ∀ url, ¬ metadata.PublishesKeysAt url) :
      LacksKeys metadata (.fault .noKeySet)
  /-- The address of the keys cannot be split into its parts. -/
  | address {url : String} (hkeys : metadata.PublishesKeysAt url)
      (haddress : Url.split? url = none) : LacksKeys metadata (.breakdown .address)
  /-- The keys are not on the web. -/
  | scheme {url : String} {parts : Url.Parts} (hkeys : metadata.PublishesKeysAt url)
      (haddress : Url.split? url = some parts) (hweb : ¬ Url.IsWeb url) :
      LacksKeys metadata (.breakdown .keySetAddress)

/-- A provider publishes its keys on the web. -/
def ProviderMetadata.HasKeys (metadata : ProviderMetadata) : Prop :=
  ∃ url, metadata.PublishesKeysAt url ∧ Url.IsWeb url

theorem ProviderMetadata.hasKeys_or_lacksKeys (metadata : ProviderMetadata) :
    metadata.HasKeys ∨ ∃ failure, metadata.LacksKeys failure := by
  by_cases hkeys : ∃ url, metadata.PublishesKeysAt url
  · obtain ⟨url, hkeys⟩ := hkeys
    by_cases hweb : Url.IsWeb url
    · exact .inl ⟨url, hkeys, hweb⟩
    · cases haddress : Url.split? url with
      | none => exact .inr ⟨_, .address hkeys haddress⟩
      | some parts => exact .inr ⟨_, .scheme hkeys haddress hweb⟩
  · exact .inr ⟨_, .unpublished (not_exists.mp hkeys)⟩

namespace Verifier

variable (platform : Platform) {metadata : ProviderMetadata} {failure : Failure SettingsFault}
  (timeout : Seconds) (maxAttempts : Int)

theorem exists_make_of_hasKeys (h : metadata.HasKeys) :
    ∃ verifier, make platform metadata timeout maxAttempts = .ok verifier := by
  obtain ⟨url, hkeys, hweb⟩ := h
  have hfound := ProviderMetadata.filter_jwksUri_eq_some_iff.mpr hkeys
  have ⟨parts, hparts, _⟩ := hweb
  simp only [make, hfound, hparts, Url.isWeb_iff hparts, hweb, if_true]
  exact ⟨_, rfl⟩

theorem make_of_lacksKeys (h : metadata.LacksKeys failure) :
    make platform metadata timeout maxAttempts = .error failure := by
  cases h with
  | unpublished hkeys =>
    have hnone : metadata.jwksUri.filter (!·.isEmpty) = none := by
      rw [Option.eq_none_iff_forall_not_mem]
      exact fun url hurl => hkeys url (ProviderMetadata.filter_jwksUri_eq_some_iff.mp hurl)
    rw [make, hnone]
  | address hkeys haddress =>
    have hfound := ProviderMetadata.filter_jwksUri_eq_some_iff.mpr hkeys
    simp only [make, hfound, haddress]
  | scheme hkeys haddress hweb =>
    have hfound := ProviderMetadata.filter_jwksUri_eq_some_iff.mpr hkeys
    simp only [make, hfound, haddress, Url.isWeb_iff haddress, hweb, if_false]

end Verifier

/-! ### Gates -/

namespace Gate

variable {platform : Platform} {gate : Gate} {settings : CheckedSettings}
  {metadata : ProviderMetadata} {answer : Http.Answer} {usePkce : Bool}

/-- Tokens can be verified if they are to be. -/
def Verifies (settings : CheckedSettings) (metadata : ProviderMetadata) : Prop :=
  settings.tokenTrust = .decoded ∨ metadata.HasKeys

theorem exists_verifierFor_of_verifies (h : Verifies settings metadata) :
    ∃ verifier, verifierFor platform settings metadata = .ok verifier := by
  rw [verifierFor]
  cases htrust : settings.tokenTrust with
  | decoded => exact ⟨none, rfl⟩
  | verified =>
    rcases h with h | hkeys
    · cases htrust.symm.trans h
    · obtain ⟨verifier, hverifier⟩ := Verifier.exists_make_of_hasKeys platform
        (.binary settings.httpTimeout) keyAttempts hkeys
      exact ⟨some verifier, by simp only [hverifier]; rfl⟩

theorem verifierFor_of_lacksKeys (hverified : settings.tokenTrust = .verified)
    {failure : Failure SettingsFault} (h : metadata.LacksKeys failure) :
    verifierFor platform settings metadata = .error failure := by
  simp only [verifierFor, hverified, Verifier.make_of_lacksKeys _ _ _ h]
  rfl

variable (entropy : Entropy)

theorem make_of_split?_eq_none (h : Url.split? settings.redirectUri = none) :
    make platform settings metadata usePkce entropy = .error (.breakdown .address) := by
  rw [make, CookiePlan.ofSettings?, h]
  rfl

theorem make_of_split?_isSome (h : (Url.split? settings.redirectUri).isSome) :
    ∃ plan : CookiePlan, plan.settings = settings ∧
      make platform settings metadata usePkce entropy =
        (verifierFor platform settings metadata).map fun verifier =>
          ⟨platform, plan, metadata, usePkce, verifier, entropy⟩ := by
  obtain ⟨parts, hparts⟩ := Option.isSome_iff_exists.mp h
  refine ⟨⟨settings, parts.host?⟩, rfl, ?_⟩
  rw [make, CookiePlan.ofSettings?, hparts]
  rfl

/-! ### Startups -/

/-- A provider can be asked for its document, and publishes it. -/
structure Discovers (platform : Platform) (settings : CheckedSettings) (answer : Http.Answer)
    (metadata : ProviderMetadata) : Prop where
  address : (discoveryAddress? platform settings).isSome
  published : Discovery.Publishes answer metadata

/-- What it takes for a gate. -/
structure Opens (platform : Platform) (settings : CheckedSettings) (answer : Http.Answer)
    (metadata : ProviderMetadata) : Prop extends Discovers platform settings answer metadata where
  suits : settings.Suits metadata
  redirect : (Url.split? settings.redirectUri).isSome
  verifies : Verifies settings metadata

/-- Why there is no gate. -/
inductive Stops (platform : Platform) (settings : CheckedSettings) (answer : Http.Answer) :
    StartupFailure → Prop
  /-- No request can be sent to the place of the document. -/
  | noAddress (haddress : discoveryAddress? platform settings = none) :
      Stops platform settings answer (.breakdown .requestAddress)
  /-- There is no document. -/
  | undiscovered {fault : DiscoveryFault}
      (haddress : (discoveryAddress? platform settings).isSome)
      (hfails : Discovery.Fails settings.issuerUri answer fault) :
      Stops platform settings answer (.discovery fault)
  /-- The settings do not go with the provider. -/
  | clash {metadata : ProviderMetadata} {fault : SettingsFault}
      (hdiscovers : Discovers platform settings answer metadata)
      (hclashes : settings.Clashes metadata fault) :
      Stops platform settings answer (.settings fault)
  /-- The redirect address cannot be split into its parts. -/
  | noRedirect {metadata : ProviderMetadata}
      (hdiscovers : Discovers platform settings answer metadata)
      (hsuits : settings.Suits metadata) (hredirect : Url.split? settings.redirectUri = none) :
      Stops platform settings answer (.breakdown .address)
  /-- Tokens are to be verified, and cannot be. -/
  | noKeys {metadata : ProviderMetadata} {failure : Failure SettingsFault}
      (hdiscovers : Discovers platform settings answer metadata) (hsuits : settings.Suits metadata)
      (hredirect : (Url.split? settings.redirectUri).isSome)
      (hverified : settings.tokenTrust = .verified) (hkeys : metadata.LacksKeys failure) :
      Stops platform settings answer (.ofSettings failure)

theorem opens_or_stops (settings : CheckedSettings) (answer : Http.Answer) :
    (∃ metadata, Opens platform settings answer metadata) ∨
      ∃ failure, Stops platform settings answer failure := by
  -- The cases are split in the order of the checks, so each reason comes with what is in order.
  cases haddress : discoveryAddress? platform settings with
  | none => exact .inr ⟨_, .noAddress haddress⟩
  | some url =>
    have haddress := Option.isSome_of_eq_some haddress
    cases hread : Discovery.read settings.issuerUri answer with
    | error fault => exact .inr ⟨_, .undiscovered haddress (Discovery.read_eq_error_iff.mp hread)⟩
    | ok metadata =>
      have hdiscovers : Discovers platform settings answer metadata :=
        ⟨haddress, Discovery.read_eq_ok_iff.mp hread⟩
      rcases settings.suits_or_clashes metadata with hsuits | ⟨fault, hclashes⟩
      · cases hredirect : Url.split? settings.redirectUri with
        | none => exact .inr ⟨_, .noRedirect hdiscovers hsuits hredirect⟩
        | some parts =>
          have hredirect := Option.isSome_of_eq_some hredirect
          cases htrust : settings.tokenTrust with
          | decoded => exact .inl ⟨metadata, hdiscovers, hsuits, hredirect, .inl htrust⟩
          | verified =>
            rcases metadata.hasKeys_or_lacksKeys with hkeys | ⟨failure, hkeys⟩
            · exact .inl ⟨metadata, hdiscovers, hsuits, hredirect, .inr hkeys⟩
            · exact .inr ⟨_, .noKeys hdiscovers hsuits hredirect htrust hkeys⟩
      · exact .inr ⟨_, .clash hdiscovers hclashes⟩

/-- The request for the document goes to its address. -/
theorem request?_eq (platform : Platform) (settings : CheckedSettings) :
    Discovery.request? platform.agent settings.issuerUri (.binary settings.httpTimeout) =
      (discoveryAddress? platform settings).map fun url =>
        ⟨.get, url, [("accept", "application/json")], "", .binary settings.httpTimeout⟩ := rfl

theorem result_of_discovers (h : Discovers platform settings answer metadata) :
    (discover platform settings answer entropy).result =
      ofMetadata platform settings metadata entropy := by
  obtain ⟨url, hurl⟩ := Option.isSome_iff_exists.mp h.address
  simp only [discover, Discovery.ask, request?_eq, hurl, Option.map_some,
    Discovery.read_eq_ok_iff.mpr h.published, Result.mapError_ok]

/-- Settings that go with a provider make the gate, if anything does. -/
theorem ofMetadata_of_suits (h : settings.Suits metadata) :
    ∃ usePkce, (usePkce = true ↔ settings.BindsAttempts metadata) ∧
      ofMetadata platform settings metadata entropy =
        (make platform settings metadata usePkce entropy).mapError .ofSettings := by
  obtain ⟨support, hsupport, hbinds⟩ := Settings.support_of_suits h
  exact ⟨support.usePkce, hbinds, by rw [ofMetadata, hsupport]⟩

/-- What it takes for a gate makes one. -/
theorem exists_gate_of_opens (h : Opens platform settings answer metadata) :
    ∃ gate, (discover platform settings answer entropy).result = .ok gate ∧
      gate.settings = settings ∧ gate.metadata = metadata ∧
      (gate.usePkce ↔ settings.BindsAttempts metadata) := by
  obtain ⟨usePkce, hbinds, hmake⟩ := ofMetadata_of_suits entropy h.suits
  obtain ⟨plan, hplan, hmade⟩ := make_of_split?_isSome entropy h.redirect
  obtain ⟨verifier, hverifier⟩ := exists_verifierFor_of_verifies h.verifies
  rw [hmade, hverifier] at hmake
  exact ⟨_, (result_of_discovers entropy h.toDiscovers).trans hmake, hplan, rfl, hbinds⟩

/-- What stops a startup is how it fails. -/
theorem result_of_stops {failure : StartupFailure} (h : Stops platform settings answer failure) :
    (discover platform settings answer entropy).result = .error failure := by
  cases h with
  | noAddress haddress =>
    simp only [discover, Discovery.ask, request?_eq, haddress, Option.map_none]
    rfl
  | undiscovered haddress hfails =>
    obtain ⟨url, hurl⟩ := Option.isSome_iff_exists.mp haddress
    simp only [discover, Discovery.ask, request?_eq, hurl, Option.map_some,
      Discovery.read_eq_error_iff.mpr hfails, Result.mapError_error]
    rfl
  | clash hdiscovers hclashes =>
    rw [result_of_discovers entropy hdiscovers, ofMetadata, Settings.support_of_clashes hclashes]
  | noRedirect hdiscovers hsuits hredirect =>
    obtain ⟨usePkce, -, hmake⟩ := ofMetadata_of_suits entropy hsuits
    rw [result_of_discovers entropy hdiscovers, hmake, make_of_split?_eq_none entropy hredirect]
    rfl
  | noKeys hdiscovers hsuits hredirect hverified hkeys =>
    obtain ⟨usePkce, -, hmake⟩ := ofMetadata_of_suits entropy hsuits
    obtain ⟨plan, -, hmade⟩ := make_of_split?_isSome entropy hredirect
    rw [result_of_discovers entropy hdiscovers, hmake, hmade,
      verifierFor_of_lacksKeys hverified hkeys]
    rfl

variable {entropy}

/-- A gate comes out of a startup with all that it takes. -/
theorem opens_of_discover (h : (discover platform settings answer entropy).result = .ok gate) :
    Opens platform settings answer gate.metadata ∧ gate.settings = settings ∧
      (gate.usePkce ↔ settings.BindsAttempts gate.metadata) := by
  rcases opens_or_stops settings answer with ⟨metadata, hopens⟩ | ⟨failure, hstops⟩
  · obtain ⟨found, hfound, hsettings, rfl, hbinds⟩ := exists_gate_of_opens entropy hopens
    cases hfound.symm.trans h
    exact ⟨hopens, hsettings, hbinds⟩
  · cases (result_of_stops entropy hstops).symm.trans h

/-- Why there is no gate where all addresses are in order. -/
inductive Refuses (settings : CheckedSettings) (answer : Http.Answer) : StartupFailure → Prop
  /-- There is no document. -/
  | undiscovered {fault : DiscoveryFault}
      (hfails : Discovery.Fails settings.issuerUri answer fault) :
      Refuses settings answer (.discovery fault)
  /-- The settings do not go with the provider. -/
  | clash {metadata : ProviderMetadata} {fault : SettingsFault}
      (hpublished : Discovery.Publishes answer metadata)
      (hclashes : settings.Clashes metadata fault) : Refuses settings answer (.settings fault)
  /-- Tokens are to be verified, and the provider publishes no keys. -/
  | noKeys {metadata : ProviderMetadata} (hpublished : Discovery.Publishes answer metadata)
      (hsuits : settings.Suits metadata) (hverified : settings.tokenTrust = .verified)
      (hkeys : ∀ url, ¬ metadata.PublishesKeysAt url) :
      Refuses settings answer (.settings .noKeySet)

/-- The document of the site's provider. -/
def sampleDocument : Json := .obj [("issuer", .str "https://id.example"),
  ("authorization_endpoint", .str "https://id.example/login"),
  ("token_endpoint", .str "https://id.example/token")]

/-- The answer that publishes it. -/
def samplePublished : Http.Answer :=
  .message ⟨200, none, Utf8.encode (sampleDocument.render Json.compact), none⟩

theorem publishes_samplePublished : Discovery.Publishes samplePublished sampleMetadata := by
  refine ⟨_, rfl, rfl, ?_⟩
  exact Schema.document_render _ (by decide +kernel)

theorem address_sampleSettings :
    (discoveryAddress? .standard sampleSettings).isSome := by
  decide +kernel

theorem discover_samplePublished :
    (discover .standard sampleSettings samplePublished ⟨fun _ _ _ => 0⟩).result =
      .ok (sampleGate false) := by
  have hsupport : sampleSettings.support sampleMetadata = .ok ⟨false, false⟩ := rfl
  rw [result_of_discovers _ ⟨address_sampleSettings, publishes_samplePublished⟩]
  simp only [ofMetadata, hsupport, make_sampleGate, Result.mapError_ok]

/-! ### Exactness -/

end Gate

end LoginGate
