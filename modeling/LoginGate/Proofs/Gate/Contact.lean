import LoginGate.Proofs.Gate.Binding
import LoginGate.Proofs.Gate.Decided

/-!
# When the provider is asked

A code that is redeemed unguarded lets a stranger in, and a refresh token that is sent twice is
worthless the second time. So a visit asks the token endpoint at most once, and what it asks for
follows from the visit and the time alone: to renew a session at hand whose lifetime is over, or to
redeem the code of a login that the browser has begun. The provider is asked for its keys only to
verify a token that it has just granted.

## Main definitions

* `Http.Request.AsksFor` : a request asks for a kind of grant.
* `Gate.Renews` : the session at hand is to be renewed.
* `Gate.Redeems` : a code is to be redeemed.

## Main results

* `Gate.course_eq_renew_iff`, `Gate.course_eq_exchange_iff` : the courses that ask the endpoint.
* `Gate.exists_asksFor_iff` : what is asked for follows from the course.
* `Gate.granted_of_fetches` : keys are fetched after a token has been granted.
* `Gate.asks_provider_iff` : when the provider is asked, and for what.
-/

namespace LoginGate

/-- A request asks for a kind of grant: its form names that kind, and no other. -/
def Http.Request.AsksFor (request : Http.Request) (kind : String) : Prop :=
  ∀ value, ("grant_type", value) ∈ Form.decode request.body.toList ↔ value = kind

namespace Gate

variable {platform : Platform} {gate : Gate} {record : Record} {visit : Visit}

/-! ### Courses that ask the token endpoint -/

/-- The session at hand is to be renewed: its lifetime is over, and it has a refresh token that is
not blank. -/
structure Renews (gate : Gate) (now : Instant) (visit : Visit) (session : Session) : Prop where
  resumes : gate.Resumes visit session
  expired : session.isExpired? now = some true
  token : session.hasRefreshToken

/-- A code is to be redeemed: the visit comes without a session, and with a code and no error. If
login attempts are bound, it brings one, and the state that comes back is the attempt's. -/
structure Redeems (gate : Gate) (visit : Visit) : Prop where
  begins : gate.Begins visit
  error : visit.parameter? "error" = none
  code : (visit.parameter? "code").isSome
  bound : gate.usePkce → ∃ value attempt,
    visit.cookie? gate.settings.stateCookieName = some value ∧
      LoginAttempt.ofCookieValue gate.settings.key value = .ok attempt ∧
      visit.parameter? "state" = some attempt.state

theorem course_eq_renew_iff {now : Instant} {session : Session} :
    gate.course now visit = .renew session ↔ gate.Renews now visit session := by
  constructor
  · intro h
    have hexplains := gate.explains_course now visit
    rw [h] at hexplains
    obtain ⟨hresumes, -⟩ := hexplains
    rw [course_of_resumes hresumes] at h
    obtain ⟨-, hexpired, htoken⟩ := courseOfSession_eq_renew_iff.mp h
    exact ⟨hresumes, hexpired, htoken⟩
  · rintro ⟨hresumes, hexpired, htoken⟩
    rw [course_of_resumes hresumes]
    exact courseOfSession_eq_renew_iff.mpr ⟨rfl, hexpired, htoken⟩

theorem course_eq_exchange_iff (now : Instant) :
    (∃ code verifier cookies, gate.course now visit = .exchange code verifier cookies) ↔
      gate.Redeems visit := by
  constructor
  · rintro ⟨code, verifier, cookies, h⟩
    have hexplains := gate.explains_course now visit
    rw [h] at hexplains
    obtain ⟨hbegins, herror, hcode, hbound⟩ := hexplains
    refine ⟨hbegins, herror, Option.isSome_of_eq_some hcode, fun hpkce => ?_⟩
    obtain ⟨attempt, hattempt, -⟩ := hbound hpkce
    obtain ⟨⟨value, hcookie, hvalue⟩, hstate⟩ := completedAttempt_eq_ok_iff.mp hattempt
    exact ⟨value, attempt, hcookie, hvalue, hstate⟩
  · rintro ⟨hbegins, herror, hcode, hbound⟩
    obtain ⟨code, hcode⟩ := Option.isSome_iff_exists.mp hcode
    rw [course_of_begins hbegins]
    simp only [courseOfLogin, herror, hcode, courseOfCallback]
    by_cases hpkce : gate.usePkce
    · obtain ⟨value, attempt, hcookie, hvalue, hstate⟩ := hbound hpkce
      have hattempt := completedAttempt_eq_ok_iff.mpr ⟨⟨value, hcookie, hvalue⟩, hstate⟩
      simp only [hpkce, if_true, hattempt]
      exact ⟨_, _, _, rfl⟩
    · rw [if_neg hpkce]
      exact ⟨_, _, _, rfl⟩

/-! ### What is asked for -/

/-- A request for a grant is posted to the endpoint, and asks for its kind. -/
theorem asksFor_of_request? {grant : Grant} {request : Http.Request}
    (h : gate.tokenEndpoint.request? grant = some request) :
    request.method = .post ∧
      gate.tokenEndpoint.address? = some request.url ∧
      request.AsksFor grant.kind := by
  refine ⟨?_, ?_, fun value => ?_⟩
  · obtain ⟨url, -, rfl⟩ := Option.map_eq_some_iff.mp h
    rfl
  · obtain ⟨url, hurl, rfl⟩ := Option.map_eq_some_iff.mp h
    exact hurl
  · rw [decode_body_of_request? h]
    exact mem_parameters_kind

/-- A visit asks for a kind of grant if its course does. -/
theorem exists_asksFor_iff (hendpoint : gate.tokenEndpoint.address?.isSome)
    {kind : String} :
    (∃ request ∈ (gate.outcome record).requests, request.AsksFor kind) ↔
      ∃ grant, (gate.course record.moment.now record.visit).grant? = some grant ∧
        grant.kind = kind := by
  constructor
  · rintro ⟨request, hrequest, hasks⟩
    obtain ⟨grant, hgrant, hsent⟩ := exists_grant_of_mem_requests hrequest
    obtain ⟨-, -, hkind⟩ := asksFor_of_request? hsent
    exact ⟨grant, hgrant, (hasks _).mp ((hkind _).mpr rfl)⟩
  · rintro ⟨grant, hgrant, rfl⟩
    have hposted : (gate.tokenEndpoint.request? grant).isSome :=
      (TokenEndpoint.isSome_request? ..).trans hendpoint
    obtain ⟨request, hsent⟩ := Option.isSome_iff_exists.mp hposted
    refine ⟨request, ?_, (asksFor_of_request? hsent).2.2⟩
    rw [outcome, requests_step, hgrant, Option.bind_some, hsent]
    exact List.mem_singleton_self _

theorem exists_asksFor_refresh_iff (hendpoint : gate.tokenEndpoint.address?.isSome) :
    (∃ request ∈ (gate.outcome record).requests, request.AsksFor "refresh_token") ↔
      ∃ session, gate.Renews record.moment.now record.visit session := by
  rw [exists_asksFor_iff hendpoint]
  simp only [← course_eq_renew_iff]
  constructor
  · rintro ⟨grant, hgrant, hkind⟩
    rcases Course.grant?_eq_some hgrant with ⟨session, hcourse, -⟩ | ⟨code, verifier, -, -, rfl⟩
    · exact ⟨session, hcourse⟩
    · exact absurd hkind (by simp [Grant.kind])
  · rintro ⟨session, hcourse⟩
    exact ⟨_, by rw [hcourse]; rfl, rfl⟩

theorem exists_asksFor_code_iff (hendpoint : gate.tokenEndpoint.address?.isSome) :
    (∃ request ∈ (gate.outcome record).requests, request.AsksFor "authorization_code") ↔
      gate.Redeems record.visit := by
  rw [exists_asksFor_iff hendpoint, ← course_eq_exchange_iff record.moment.now]
  constructor
  · rintro ⟨grant, hgrant, hkind⟩
    rcases Course.grant?_eq_some hgrant with ⟨session, -, rfl⟩ | ⟨code, verifier, cookies, h, -⟩
    · exact absurd hkind (by simp [Grant.kind])
    · exact ⟨code, verifier, cookies, h⟩
  · rintro ⟨code, verifier, cookies, hcourse⟩
    exact ⟨_, by rw [hcourse]; rfl, rfl⟩

/-! ### Keys -/

/-- A visit fetches the keys that are fetched to obtain its session, and no other. -/
theorem fetches_outcome (gate : Gate) (record : Record) :
    (gate.outcome record).fetches =
      match (gate.course record.moment.now record.visit).grant? with
      | some grant => (gate.obtained record grant
          (gate.course record.moment.now record.visit).previous?).fetches
      | none => 0 := by
  obtain ⟨memory, moment, visit⟩ := record
  rw [outcome, step]
  simp only
  cases gate.course moment.now visit with
  | pass => rfl
  | forward session cookies => exact (gate.forward_asks_nobody _ memory session cookies).2
  | renew session => rfl
  | exchange code verifier cookies => rfl
  | login cookies => exact (gate.leadToProvider_asks_nobody memory cookies).2
  | deny fault cookies => rfl
  | stuck breakdown => rfl

/-- Keys are fetched only if tokens are verified, and only after one has been granted. -/
theorem granted_of_obtain_fetches {moment : Moment} {keys : Jwt.KeyStore} {grant : Grant}
    {previous : Option String} (h : (gate.obtain moment keys grant previous).fetches ≠ 0) :
    gate.verifier.isSome ∧ ∃ token, gate.tokenEndpoint.read moment.tokenAnswer = .ok token := by
  rw [obtain] at h
  cases hask : (gate.tokenEndpoint.ask grant moment.tokenAnswer).result with
  | error failure =>
    rw [hask] at h
    exact absurd rfl h
  | ok token =>
    rw [hask] at h
    refine ⟨?_, token, (TokenEndpoint.ask_result_eq_ok_iff.mp hask).2⟩
    cases hverifier : gate.verifier with
    | some verifier => rfl
    | none =>
      simp only [draft, profile, hverifier] at h
      exact absurd rfl h

/-- Keys are fetched in a visit only if tokens are verified, and only after the token endpoint has
been asked and has granted one. -/
theorem granted_of_fetches (h : (gate.outcome record).fetches ≠ 0) :
    gate.verifier.isSome ∧ ∃ token, gate.Receives record token := by
  rw [fetches_outcome] at h
  cases hgrant : (gate.course record.moment.now record.visit).grant? with
  | none =>
    rw [hgrant] at h
    exact absurd rfl h
  | some grant =>
    rw [hgrant] at h
    obtain ⟨hverifier, token, hread⟩ := granted_of_obtain_fetches h
    exact ⟨hverifier, token, Option.isSome_of_eq_some hgrant, hread⟩

/-! ### The provider -/

/-- A visit to a path that is open to everybody passes and leaves everything as it was. -/
theorem outcome_of_bypassed (h : gate.settings.isBypassed record.visit.path) :
    gate.outcome record =
      { result := .ok .pass, memory := record.memory, requests := [], fetches := 0 } := by
  rw [outcome, step, course, if_pos h]
  rfl

/-- The provider is asked in no visit for more than one token. One is asked for to renew the
session at hand exactly if the session is to be renewed, and to redeem a code exactly if the code
is to be redeemed. The keys are asked for only where tokens are verified, and only after a token
has been granted. A visit to a path that is open to everybody draws nothing, keeps nothing and asks
nobody. -/
theorem asks_provider_iff {settings : CheckedSettings} {metadata : ProviderMetadata}
    {usePkce : Bool} {entropy : Entropy}
    (hgate : make platform settings metadata usePkce entropy = .ok gate)
    (hendpoint : gate.tokenEndpoint.address?.isSome) (record : Record) :
    (gate.outcome record).requests.length ≤ 1 ∧
      (∀ request ∈ (gate.outcome record).requests, request.method = .post ∧
        gate.tokenEndpoint.address? = some request.url ∧
        (request.AsksFor "refresh_token" ∨ request.AsksFor "authorization_code")) ∧
      ((∃ request ∈ (gate.outcome record).requests, request.AsksFor "refresh_token") ↔
        ∃ session, gate.Renews record.moment.now record.visit session) ∧
      ((∃ request ∈ (gate.outcome record).requests, request.AsksFor "authorization_code") ↔
        gate.Redeems record.visit) ∧
      ((gate.outcome record).fetches ≠ 0 →
        settings.tokenTrust = .verified ∧ (gate.outcome record).requests ≠ [] ∧
          ∃ message token, record.moment.tokenAnswer = .message message ∧ message.status = 200 ∧
            Schema.document TokenAnswer.reader message.body = .valid (.granted token)) ∧
      (gate.settings.isBypassed record.visit.path →
        gate.outcome record =
          { result := .ok .pass, memory := record.memory, requests := [], fetches := 0 }) := by
  refine ⟨?_, fun request hrequest => ?_, exists_asksFor_refresh_iff hendpoint,
    exists_asksFor_code_iff hendpoint, fun hfetches => ?_, outcome_of_bypassed⟩
  · rw [outcome, requests_step]
    exact Option.length_toList_le
  · obtain ⟨grant, -, hsent⟩ := exists_grant_of_mem_requests hrequest
    obtain ⟨hmethod, hurl, hkind⟩ := asksFor_of_request? hsent
    refine ⟨hmethod, hurl, ?_⟩
    cases grant with
    | code code verifier => exact .inr hkind
    | refresh token => exact .inl hkind
  · obtain ⟨hverifier, token, hasked, hread⟩ := granted_of_fetches hfetches
    obtain ⟨-, hverifierFor⟩ := verifierFor_of_make hgate
    obtain ⟨message, hmessage, hstatus, hdocument⟩ := TokenEndpoint.read_eq_ok_iff.mp hread
    refine ⟨(isSome_of_verifierFor hverifierFor).mp hverifier, ?_, message, token, hmessage,
      hstatus, hdocument⟩
    obtain ⟨grant, hgrant⟩ := Option.isSome_iff_exists.mp hasked
    obtain ⟨request, hrequest, -⟩ := (exists_asksFor_iff hendpoint).mpr ⟨grant, hgrant, rfl⟩
    exact List.ne_nil_of_mem hrequest

/-- The callback of a bound login attempt redeems its code, once, and asks for nothing else. -/
theorem asks_provider_iff_after_login :
    make .standard sampleSettings sampleMetadata true ⟨fun _ _ _ => 0⟩ = .ok (sampleGate true) ∧
      (sampleGate true).tokenEndpoint.address?.isSome ∧
      (sampleGate true).Redeems sampleBoundCallback.visit ∧
      ((sampleGate true).outcome sampleBoundCallback).requests.length ≤ 1 ∧
      (∃ request ∈ ((sampleGate true).outcome sampleBoundCallback).requests,
        request.AsksFor "authorization_code") ∧
      (¬ ∃ request ∈ ((sampleGate true).outcome sampleBoundCallback).requests,
        request.AsksFor "refresh_token") ∧
      ((sampleGate true).outcome sampleBoundCallback).fetches = 0 := by
  obtain ⟨cookies, hcourse⟩ := course_sampleBoundCallback
  obtain ⟨honce, -, hrenews, hredeems, hfetches, -⟩ :=
    asks_provider_iff (make_sampleGate true) tokenEndpoint_sampleGate sampleBoundCallback
  have hredeemed : (sampleGate true).Redeems sampleBoundCallback.visit :=
    (course_eq_exchange_iff _).mp ⟨_, _, _, hcourse⟩
  refine ⟨make_sampleGate true, tokenEndpoint_sampleGate, hredeemed, honce,
    hredeems.mpr hredeemed, ?_, ?_⟩
  · rw [hrenews]
    rintro ⟨session, hsession⟩
    rw [← course_eq_renew_iff, hcourse] at hsession
    cases hsession
  · by_contra hne
    obtain ⟨htrust, -⟩ := hfetches hne
    cases htrust

end Gate

end LoginGate
