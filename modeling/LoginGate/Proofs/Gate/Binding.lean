import LoginGate.Proofs.Gate.Unforged
import LoginGate.Proofs.Provider.TokenEndpoint

/-!
# Bound login attempts

Where login attempts are bound by a code verifier, a code is exchanged only for the login attempt
that began it: the gate has led somebody to the provider before with the state that now comes back,
and with the hash of the very verifier that it now posts. The verifier has been in the browser's
keeping in between, which can neither make one up nor put a session in its place.

## Main definitions

* `Url.afterMark` : what follows the first question mark of an address.
* `LoginAttempt.isVerifierChar` : the characters that code verifiers are made of.
* `Grant.kind` : the two kinds of grants.

## Main results

* `Gate.decode_authorizationUrl` : what the address at the provider carries.
* `Gate.exists_grant_of_mem_requests` : which visits ask the token endpoint, and for what.
* `Gate.exchange_bound` : every exchanged code belongs to a login attempt.
-/

namespace LoginGate

/-! ### Addresses with a question mark -/

namespace Url

/-- What follows the first question mark. -/
def afterMark (cs : List Char) : List Char := (cs.dropWhile (· ≠ '?')).drop 1

theorem afterMark_append_of_mem {cs : List Char} (h : '?' ∈ cs) (ds : List Char) :
    afterMark (cs ++ ds) = afterMark cs ++ ds := by
  induction cs with
  | nil => cases h
  | cons c cs ih =>
    by_cases hc : c = '?'
    · subst hc
      simp [afterMark]
    · have hmem : '?' ∈ cs := by
        rcases List.mem_cons.mp h with rfl | h
        · exact absurd rfl hc
        · exact h
      simpa [afterMark, hc] using ih hmem

theorem afterMark_append_of_not_mem {cs : List Char} (h : '?' ∉ cs) (ds : List Char) :
    afterMark (cs ++ '?' :: ds) = ds := by
  have hall : ∀ c ∈ cs, decide (c ≠ '?') := by
    intro c hc
    rw [decide_eq_true_eq]
    rintro rfl
    exact h hc
  rw [afterMark, List.dropWhile_append_of_pos hall]
  simp

theorem afterMark_of_not_mem {cs : List Char} (h : '?' ∉ cs) : afterMark cs = [] := by
  have hall : ∀ c ∈ cs, decide (c ≠ '?') := by
    intro c hc
    rw [decide_eq_true_eq]
    rintro rfl
    exact h hc
  rw [afterMark, List.dropWhile_eq_nil_iff.mpr hall]
  rfl

end Url

/-! ### Fresh login attempts -/

namespace LoginAttempt

/-- The characters that a code verifier may be made of: letters, digits, hyphens, points,
underscores and tildes. -/
def isVerifierChar (c : Char) : Bool := c.isAlphanum || c ∈ ['-', '.', '_', '~']

theorem isVerifierChar_of_isTokenChar {c : Char} (h : Base64.isTokenChar c) :
    isVerifierChar c := by
  simp only [Base64.isTokenChar, Bool.or_eq_true, decide_eq_true_eq] at h
  rcases h with (h | rfl) | rfl
  · simp [isVerifierChar, h]
  · decide
  · decide

/-- A fresh verifier has 86 characters. -/
theorem length_verifier_ofRandom {verifierBytes : Bytes} (h : verifierBytes.length = 64)
    (stateBytes : Bytes) : (ofRandom verifierBytes stateBytes).codeVerifier.toList.length = 86 := by
  simp only [ofRandom, Base64.encode, String.toList_ofList, Base64.length_encodeChars, h]

theorem isVerifierChar_of_mem_ofRandom {verifierBytes stateBytes : Bytes} {c : Char}
    (h : c ∈ (ofRandom verifierBytes stateBytes).codeVerifier.toList) : isVerifierChar c := by
  simp only [ofRandom, Base64.encode, String.toList_ofList] at h
  exact isVerifierChar_of_isTokenChar (Base64.isTokenChar_of_mem h)

end LoginAttempt

/-- The kind of a grant in a form. -/
def Grant.kind : Grant → String
  | .code .. => "authorization_code"
  | .refresh _ => "refresh_token"

namespace Gate

variable {gate : Gate} {record : Record}

/-! ### The way to the provider -/

/-- The address at the provider begins with the endpoint. -/
theorem prefix_authorizationUrl (gate : Gate) (more : NameMap) :
    gate.metadata.authorizationEndpoint.toList <+: (gate.authorizationUrl more).toList := by
  rw [authorizationUrl, String.toList_append, String.toList_append, List.append_assoc]
  exact List.prefix_append _ _

/-- The address at the provider carries the endpoint's own parameters, and then those that the
provider is told. -/
theorem decode_authorizationUrl (gate : Gate) (more : NameMap) :
    Form.decode (Url.afterMark (gate.authorizationUrl more).toList) =
      Form.decode (Url.afterMark gate.metadata.authorizationEndpoint.toList) ++
        gate.loginParameters.insertAll more := by
  simp only [authorizationUrl, Form.encode, String.toList_append, String.toList_ofList]
  by_cases hmark : '?' ∈ gate.metadata.authorizationEndpoint.toList
  · have hjoin : "&".toList ++ Form.encodeChars (gate.loginParameters.insertAll more) =
        '&' :: Form.encodeChars (gate.loginParameters.insertAll more) := rfl
    rw [if_pos hmark, List.append_assoc, Url.afterMark_append_of_mem hmark, hjoin,
      Form.decode_append, Form.decode_encodeChars]
  · have hjoin : "?".toList ++ Form.encodeChars (gate.loginParameters.insertAll more) =
        '?' :: Form.encodeChars (gate.loginParameters.insertAll more) := rfl
    rw [if_neg hmark, List.append_assoc, hjoin, Url.afterMark_append_of_not_mem hmark,
      Url.afterMark_of_not_mem hmark, Form.decode_encodeChars]
    rfl

/-- A login attempt adds its parameters at the end. -/
theorem insertAll_attemptParameters (gate : Gate) (attempt : LoginAttempt) :
    gate.loginParameters.insertAll (attemptParameters attempt) =
      gate.loginParameters ++ attemptParameters attempt := by
  simp [loginParameters, attemptParameters, NameMap.insertAll, NameMap.insert]

/-! ### Requests for tokens -/

/-- The form of a request is that of its grant. -/
theorem decode_body_of_request? {grant : Grant} {request : Http.Request}
    (h : gate.tokenEndpoint.request? grant = some request) :
    Form.decode request.body.toList = gate.tokenEndpoint.parameters grant :=
  TokenEndpoint.decode_body_of_request? h

/-- A code is exchanged if the login attempt that it completes is at hand. -/
theorem course_of_bound_callback {now : Instant} {visit : Visit} {code value : String}
    {attempt : LoginAttempt} (hpkce : gate.usePkce)
    (hbypass : gate.settings.isBypassed visit.path = false)
    (hsession : visit.cookie? gate.settings.cookieName = none)
    (herror : visit.parameter? "error" = none) (hcode : visit.parameter? "code" = some code)
    (hcookie : visit.cookie? gate.settings.stateCookieName = some value)
    (hattempt : LoginAttempt.ofCookieValue gate.settings.key value = .ok attempt)
    (hstate : attempt.matchesState (visit.query.get? "state")) :
    gate.course now visit =
      .exchange code (some attempt.codeVerifier) (gate.callbackCookies visit) := by
  rw [course, hbypass, if_neg Bool.false_ne_true, hsession]
  simp only [courseOfLogin, herror, hcode, courseOfCallback, hpkce, if_true, completedAttempt,
    hcookie, hattempt, hstate, List.nil_append]

/-- The token endpoint is asked for a grant in a visit. -/
theorem exists_grant_of_mem_requests {request : Http.Request}
    (h : request ∈ (gate.outcome record).requests) :
    ∃ grant, (gate.course record.moment.now record.visit).grant? = some grant ∧
      gate.tokenEndpoint.request? grant = some request := by
  rw [outcome, requests_step, Option.mem_toList] at h
  exact Option.bind_eq_some_iff.mp h

theorem eq_of_mem_unlessEmpty {name other value : String} {text : Option String}
    (h : (other, value) ∈ TokenEndpoint.unlessEmpty name text) : other = name := by
  cases text with
  | none => cases h
  | some text =>
    rw [TokenEndpoint.unlessEmpty] at h
    split at h
    · cases h
    · rw [List.mem_singleton, Prod.mk.injEq] at h
      exact h.1

/-- The form for a code holds the verifier once. -/
theorem mem_parameters_code {endpoint : TokenEndpoint} {code verifier value : String}
    (h : verifier.isEmpty = false) :
    ("code_verifier", value) ∈ endpoint.parameters (.code code (some verifier)) ↔
      value = verifier := by
  have hsecret : ("code_verifier", value) ∉
      TokenEndpoint.unlessEmpty "client_secret" endpoint.clientSecret :=
    fun hmem => absurd (eq_of_mem_unlessEmpty hmem) (by decide)
  have hverifier : TokenEndpoint.unlessEmpty "code_verifier" (some verifier) =
      [("code_verifier", verifier)] := by
    rw [TokenEndpoint.unlessEmpty, h, if_neg Bool.false_ne_true]
  rw [TokenEndpoint.parameters, hverifier, List.mem_append, List.mem_append]
  simp [hsecret]

/-- A form asks for one kind of grant. -/
theorem mem_parameters_kind {endpoint : TokenEndpoint} {grant : Grant} {value : String} :
    ("grant_type", value) ∈ endpoint.parameters grant ↔ value = grant.kind := by
  have hother : ∀ {name : String} {text : Option String}, "grant_type" ≠ name →
      ("grant_type", value) ∉ TokenEndpoint.unlessEmpty name text :=
    fun hname hmem => hname (eq_of_mem_unlessEmpty hmem)
  cases grant with
  | code code verifier =>
    rw [TokenEndpoint.parameters, List.mem_append, List.mem_append]
    simp [hother, Grant.kind]
  | refresh token =>
    rw [TokenEndpoint.parameters, List.mem_append]
    simp [hother, Grant.kind]

/-- The form for a refresh token asks for nothing else. -/
theorem not_mem_parameters_refresh (endpoint : TokenEndpoint) (token : String) :
    ("grant_type", "authorization_code") ∉ endpoint.parameters (.refresh token) := by
  simp [mem_parameters_kind, Grant.kind]

/-! ### A login and its callback -/

/-- A user is led to the provider. -/
def sampleLogin : Record := ⟨{}, ⟨0, .none "", []⟩, {}⟩

/-- The login attempt. -/
def sampleAttempt : LoginAttempt := (sampleGate true).nextAttempt {}

/-- The provider leads the user back. -/
def sampleBoundCallback : Record where
  memory := ((sampleGate true).outcome sampleLogin).memory
  moment := ⟨1, .none "", []⟩
  visit :=
    { path := "/callback"
      query := [("code", "c"), ("state", sampleAttempt.state)]
      cookies := [("OIDC_AUTH_SESSION_STATE",
        (sampleGate true).valueOf sampleLogin (.attempt sampleAttempt))] }

/-- Both visits. -/
def sampleBoundVisits : List (Moment × Visit) :=
  [(sampleLogin.moment, sampleLogin.visit),
    (sampleBoundCallback.moment, sampleBoundCallback.visit)]

theorem sealed_sampleLogin :
    (sampleGate true).sealed? sampleLogin = some (.attempt sampleAttempt) := by
  have hcourse : (sampleGate true).course sampleLogin.moment.now sampleLogin.visit = .login [] :=
    rfl
  rw [sealed?, hcourse]
  rfl

theorem cookie?_sampleBoundCallback :
    sampleBoundCallback.visit.cookie? "OIDC_AUTH_SESSION_STATE" =
      some ((sampleGate true).valueOf sampleLogin (.attempt sampleAttempt)) := by
  have hvalue := CookieCipher.encrypt_ne_empty (sampleGate true).settings.key
    (length_iv (sampleGate true) sampleLogin) (Sealed.attempt sampleAttempt).content
  simp [Visit.cookie?, sampleBoundCallback, NameMap.get?, valueOf, hvalue]

theorem sessionCookie?_sampleBoundCallback :
    sampleBoundCallback.visit.cookie? "OIDC_AUTH_SESSION" = none := by
  simp [Visit.cookie?, sampleBoundCallback, NameMap.get?]

theorem stateCookieName_sampleGate :
    (sampleGate true).settings.stateCookieName = "OIDC_AUTH_SESSION_STATE" := by decide

theorem history_sampleBoundVisits :
    (sampleGate true).history {} sampleBoundVisits = [sampleLogin] ++ [sampleBoundCallback] := rfl

theorem unforged_sampleBoundVisits : (sampleGate true).Unforged {} sampleBoundVisits := by
  have hname : (sampleGate true).settings.cookieName = "OIDC_AUTH_SESSION" := rfl
  refine unforged_of_returned fun past record later hhistory value hvalue => ?_
  rw [history_sampleBoundVisits] at hhistory
  match past with
  | [] =>
    obtain ⟨rfl, -⟩ := List.cons.inj hhistory
    cases hvalue
  | [earlier] =>
    obtain ⟨rfl, hlast⟩ := List.cons.inj hhistory
    obtain ⟨rfl, -⟩ := List.cons.inj hlast
    have hopen : (sampleGate true).settings.isBypassed sampleBoundCallback.visit.path = false :=
      rfl
    rw [openedValues, hopen, if_neg Bool.false_ne_true, hname, sessionCookie?_sampleBoundCallback,
      Option.toList_none, List.nil_append, stateCookieName_sampleGate,
      cookie?_sampleBoundCallback] at hvalue
    split at hvalue
    · exact ⟨_, List.mem_singleton_self _, _, sealed_sampleLogin, List.mem_singleton.mp hvalue⟩
    · cases hvalue
  | first :: second :: past => simp at hhistory

theorem course_sampleBoundCallback :
    ∃ cookies, (sampleGate true).course sampleBoundCallback.moment.now
        sampleBoundCallback.visit =
      .exchange "c" (some sampleAttempt.codeVerifier) cookies := by
  have hattempt : LoginAttempt.ofCookieValue (sampleGate true).settings.key
      ((sampleGate true).valueOf sampleLogin (.attempt sampleAttempt)) = .ok sampleAttempt := by
    rw [valueOf_attempt]
    exact LoginAttempt.ofCookieValue_toCookieValue _ (length_iv _ _) _
  have hcookie := cookie?_sampleBoundCallback
  rw [← stateCookieName_sampleGate] at hcookie
  exact ⟨_, course_of_bound_callback rfl rfl sessionCookie?_sampleBoundCallback (by decide)
    (by decide) hcookie hattempt (by decide)⟩

/-- The callback posts a request for the code. -/
theorem exists_request_sampleBoundCallback :
    ∃ request ∈ ((sampleGate true).outcome sampleBoundCallback).requests,
      ("grant_type", "authorization_code") ∈ Form.decode request.body.toList := by
  obtain ⟨cookies, hcourse⟩ := course_sampleBoundCallback
  obtain ⟨request, hrequest⟩ : ∃ request, (sampleGate true).tokenEndpoint.request?
      (.code "c" (some sampleAttempt.codeVerifier)) = some request :=
    Option.isSome_iff_exists.mp
      ((TokenEndpoint.isSome_request? ..).trans tokenEndpoint_sampleGate)
  refine ⟨request, ?_, ?_⟩
  · rw [outcome, requests_step, hcourse, Course.grant?, Option.bind_some, hrequest]
    exact List.mem_singleton_self _
  · rw [decode_body_of_request? hrequest, TokenEndpoint.parameters]
    simp

/-! ### Binding -/

/-- Every exchanged code belongs to a login attempt: in an earlier visit somebody was led to the
provider with the state that now comes back and with the hash of the verifier that is now posted.
The verifier is the only one in the form, has 86 characters, and all of them are allowed. -/
theorem exchange_bound (hpkce : gate.usePkce) {memory : GateMemory}
    {visits : List (Moment × Visit)} (hunforged : gate.Unforged memory visits)
    {past later : List Record} (hhistory : gate.history memory visits = past ++ record :: later)
    {request : Http.Request} (hrequest : request ∈ (gate.outcome record).requests)
    (hgrant : ("grant_type", "authorization_code") ∈ Form.decode request.body.toList) :
    ∃ verifier state, ∃ earlier ∈ past, ∃ location cookies,
      (∀ value, ("code_verifier", value) ∈ Form.decode request.body.toList ↔ value = verifier) ∧
      record.visit.query.get? "state" = some state ∧
      (gate.outcome earlier).result = .ok (.redirect location cookies false) ∧
      gate.metadata.authorizationEndpoint.toList <+: location.toList ∧
      Form.decode (Url.afterMark location.toList) =
        Form.decode (Url.afterMark gate.metadata.authorizationEndpoint.toList) ++
          gate.loginParameters ++
          [("state", state),
            ("code_challenge", Base64.encode .urlSafe (Sha2.sha256 (Utf8.encode verifier))),
            ("code_challenge_method", "S256")] ∧
      verifier.toList.length = 86 ∧ ∀ c ∈ verifier.toList, LoginAttempt.isVerifierChar c := by
  obtain ⟨grant, hasked, hsent⟩ := exists_grant_of_mem_requests hrequest
  rcases Course.grant?_eq_some hasked with
    ⟨session, -, rfl⟩ | ⟨code, verifier, cookies, hcourse, rfl⟩
  · rw [decode_body_of_request? hsent] at hgrant
    exact absurd hgrant (not_mem_parameters_refresh _ _)
  · obtain ⟨value, hvalue, attempt, hattempt, rfl, hstate⟩ := exists_opened_attempt hpkce hcourse
    obtain ⟨earlier, hearlier, hsealed⟩ :=
      hunforged.sealed_of_opened_attempt hhistory hvalue hattempt
    obtain ⟨rfl, kept, hresult⟩ := sealed_attempt hsealed
    have hlength : (gate.nextAttempt earlier.memory.draws).codeVerifier.toList.length = 86 :=
      LoginAttempt.length_verifier_ofRandom (Entropy.length_piece ..) _
    have hne : (gate.nextAttempt earlier.memory.draws).codeVerifier.isEmpty = false := by
      rw [Bool.eq_false_iff]
      intro hempty
      rw [String.isEmpty_iff.mp hempty] at hlength
      cases hlength
    refine ⟨_, _, earlier, hearlier, _, kept, fun value => ?_, hstate, hresult,
      prefix_authorizationUrl gate _, ?_, hlength,
      fun c hc => LoginAttempt.isVerifierChar_of_mem_ofRandom hc⟩
    · rw [decode_body_of_request? hsent]
      exact mem_parameters_code hne
    · rw [decode_authorizationUrl, insertAll_attemptParameters, List.append_assoc]
      rfl

/-- The callback after a login belongs to that login. -/
theorem exchange_bound_after_login :
    (sampleGate true).Unforged {} sampleBoundVisits ∧
      ∃ request ∈ ((sampleGate true).outcome sampleBoundCallback).requests,
        ∃ verifier state, ∃ earlier ∈ [sampleLogin], ∃ location cookies,
          (∀ value, ("code_verifier", value) ∈ Form.decode request.body.toList ↔
            value = verifier) ∧
          sampleBoundCallback.visit.query.get? "state" = some state ∧
          ((sampleGate true).outcome earlier).result = .ok (.redirect location cookies false) ∧
          (sampleGate true).metadata.authorizationEndpoint.toList <+: location.toList ∧
          Form.decode (Url.afterMark location.toList) =
            Form.decode (Url.afterMark (sampleGate true).metadata.authorizationEndpoint.toList) ++
              (sampleGate true).loginParameters ++
              [("state", state),
                ("code_challenge", Base64.encode .urlSafe (Sha2.sha256 (Utf8.encode verifier))),
                ("code_challenge_method", "S256")] ∧
          verifier.toList.length = 86 ∧
          ∀ c ∈ verifier.toList, LoginAttempt.isVerifierChar c := by
  obtain ⟨request, hrequest, hgrant⟩ := exists_request_sampleBoundCallback
  exact ⟨unforged_sampleBoundVisits, request, hrequest,
    exchange_bound rfl unforged_sampleBoundVisits history_sampleBoundVisits hrequest hgrant⟩

end Gate

end LoginGate
