import LoginGate.Proofs.Gate.Ends
import LoginGate.Proofs.Gate.Unforged
import LoginGate.Proofs.Json.RoundTrip
import LoginGate.Proofs.Jwt.Segments

/-!
# Who is forwarded

Whoever is forwarded is somebody of whom the provider has told: the token endpoint has answered in
the same visit or an earlier one, and the access token in its answer tells of that identity. In
between the identity may have been kept by the browser, which can neither make up nor alter what it
keeps.

## Main definitions

* `Gate.Grants` : a token of the provider that tells of an identity.

## Main results

* `Gate.result_of_fresh_session` : a session whose lifetime is not over is forwarded.
* `Gate.forward_cases` : where a forwarded identity comes from.
* `Gate.forward_authentic` : the provider has told of whoever is forwarded.
-/

namespace LoginGate.Gate

variable {platform : Platform} {gate : Gate} {record : Record}

/-- What is at hand to check the tokens of a visit. -/
def errand (record : Record) : Jwt.Errand := ⟨record.memory.keys, record.moment.keyAnswers, 0⟩

/-- The provider tells of an identity in a visit: the token endpoint is asked, its answer has status
200 and grants a token, and the access token tells of the identity. -/
structure Grants (gate : Gate) (record : Record) (token : Token) (identity : Identity) : Prop where
  asked : (gate.outcome record).requests ≠ []
  answered : ∃ message, record.moment.tokenAnswer = .message message ∧ message.status = 200 ∧
    Schema.document TokenAnswer.reader message.body = .valid (.granted token)
  told : (gate.profile record.moment.now token.accessToken (errand record)).1 =
    .ok (identity.map .text)

/-- The provider tells of the user of an encrypted session with the token that the session is made
of. -/
theorem grants_of_madeOf {previous : Option String} {token : Token} {session : Session}
    (h : gate.sealed? record = some (.session session))
    (hmade : gate.MadeOf record.moment record.memory.keys previous token session) :
    gate.Grants record token session.identity := by
  obtain ⟨grant, hgrant, hresult⟩ := sealed_session h
  obtain ⟨hasked, -⟩ := obtain_result_eq_ok_iff.mp hresult
  refine ⟨?_, TokenEndpoint.read_eq_ok_iff.mp hmade.read, hmade.told⟩
  rw [outcome, requests_step, hgrant, Option.bind_some]
  intro hnil
  rw [Option.toList_eq_nil_iff.mp hnil] at hasked
  cases hasked

theorem sealed_session_grants {session : Session}
    (h : gate.sealed? record = some (.session session)) :
    ∃ token, gate.Grants record token session.identity := by
  obtain ⟨token, hmade⟩ := madeOf_of_sealed h
  exact ⟨token, grants_of_madeOf h hmade⟩

theorem strategy_of_sealed_session {session : Session}
    (h : gate.sealed? record = some (.session session)) :
    session.strategy = gate.settings.idStrategy := by
  obtain ⟨token, hmade⟩ := madeOf_of_sealed h
  exact hmade.strategy

/-- A decision to forward is made for the session at hand. -/
theorem forward_eq_ok_forward {now : Instant} {memory : GateMemory} {session : Session}
    {cookies cookies' : List Cookie} {userId : String} {identity : Identity}
    {groups : List String}
    (h : (gate.forward now memory session cookies).result =
      .ok (.forward userId identity groups cookies')) :
    session.userId? = some userId ∧ session.identity = identity ∧
      identity.groupsAndRoles = groups := by
  rcases gate.result_forward_cases now memory session cookies with
    ⟨location, kept, hredirect⟩ | ⟨found, hfound, hforward⟩
  · cases hredirect.symm.trans h
  · rw [hforward] at h
    split at h <;> cases h
    exact ⟨hfound, rfl, rfl⟩

/-- A session whose lifetime is not over is forwarded. -/
theorem result_of_fresh_session {session : Session} {userId : String}
    (hresumes : gate.Resumes record.visit session)
    (hfresh : session.isExpired? record.moment.now = some false)
    (huser : session.userId? = some userId) (hsize : record.memory.groups.canRecord) :
    (gate.outcome record).result =
      .ok (.forward userId session.identity session.identity.groupsAndRoles []) := by
  rw [outcome_of_fresh_session hresumes hfresh, forward, huser]
  simp only [hsize, if_true]

/-- What is forwarded in a visit is a session that stands in a decrypted value, or one that is
sealed in this visit. -/
theorem forward_cases {userId : String} {identity : Identity} {groups : List String}
    {cookies : List Cookie}
    (h : (gate.outcome record).result = .ok (.forward userId identity groups cookies)) :
    ∃ session, session.userId? = some userId ∧ session.identity = identity ∧
      ((∃ value ∈ gate.openedValues record.visit,
          Session.ofCookieValue gate.settings.key value = .ok session) ∨
        gate.sealed? record = some (.session session)) := by
  cases ends_of_result h with
  | forwarded hresumes huser => exact ⟨_, huser, rfl, .inl (exists_opened_session hresumes)⟩
  | renewed _ huser hsealed => exact ⟨_, huser, rfl, .inr hsealed⟩

/-- Tokens are verified if the settings say so. -/
theorem isSome_of_verifierFor {settings : CheckedSettings} {metadata : ProviderMetadata}
    {verifier : Option Verifier} (h : verifierFor platform settings metadata = .ok verifier) :
    verifier.isSome ↔ settings.tokenTrust = .verified := by
  rw [verifierFor] at h
  cases htrust : settings.tokenTrust with
  | decoded =>
    rw [htrust] at h
    cases h
    simp
  | verified =>
    rw [htrust] at h
    obtain ⟨found, -, rfl⟩ := Result.map_eq_ok_iff.mp h
    simp

theorem verifierFor_of_make {settings : CheckedSettings} {metadata : ProviderMetadata}
    {usePkce : Bool} {entropy : Entropy}
    (h : make platform settings metadata usePkce entropy = .ok gate) :
    gate.settings = settings ∧ verifierFor platform settings metadata = .ok gate.verifier := by
  rw [make] at h
  split at h
  · cases h
  · rename_i plan hplan
    obtain ⟨parts, -, rfl⟩ := Option.map_eq_some_iff.mp hplan
    obtain ⟨verifier, hverifier, rfl⟩ := Result.map_eq_ok_iff.mp h
    exact ⟨rfl, hverifier⟩

theorem make_eq_ok {settings : CheckedSettings} {metadata : ProviderMetadata} {usePkce : Bool}
    {entropy : Entropy} (h : make platform settings metadata usePkce entropy = .ok gate) :
    gate.settings = settings ∧ (settings.tokenTrust = .verified → gate.verifier.isSome) := by
  obtain ⟨hsettings, hverifier⟩ := verifierFor_of_make h
  exact ⟨hsettings, (isSome_of_verifierFor hverifier).mpr⟩

/-! ### A login and the visit after it -/

/-- An access token that tells of a mail address. -/
def sampleAccessToken : String := "e30.eyJlbWFpbCI6ImFAYi5jIn0."

/-- The claims in it. -/
def sampleClaims : Json := .obj [("email", .str "a@b.c")]

/-- The token document with it. -/
def sampleToken : Token := { accessToken := sampleAccessToken }

/-- The session that the token begins at the start of 1970. -/
def sampleSession : Session where
  identity := { email := some "a@b.c" }
  expiresIn := 43200
  expiresAt := .ofInstant 43200000000

/-- The provider leads a user back with a code. -/
def sampleCallback : Record where
  memory := {}
  moment := ⟨0, TokenEndpoint.granting sampleToken, []⟩
  visit := { path := "/callback", query := [("code", "c")] }

/-- The user comes back with the session, a microsecond later. -/
def sampleReturn : Record where
  memory := ((sampleGate false).outcome sampleCallback).memory
  moment := ⟨1, .none "", []⟩
  visit :=
    { cookies := [("OIDC_AUTH_SESSION",
        (sampleGate false).valueOf sampleCallback (.session sampleSession))] }

/-- Both visits. -/
def sampleVisits : List (Moment × Visit) :=
  [(sampleCallback.moment, sampleCallback.visit), (sampleReturn.moment, sampleReturn.visit)]

theorem load_sampleAccessToken :
    Jwt.load .standard sampleAccessToken =
      .ok ⟨.obj [], Utf8.encode (sampleClaims.render Json.compact), [],
        Utf8.encode "e30.eyJlbWFpbCI6ImFAYi5jIn0"⟩ := by
  have hlast : Jwt.splitLastPoint? sampleAccessToken.toList =
      some ("e30.eyJlbWFpbCI6ImFAYi5jIn0".toList, []) := by decide +kernel
  have hfirst : Jwt.splitPoint? "e30.eyJlbWFpbCI6ImFAYi5jIn0".toList =
      some ("e30".toList, "eyJlbWFpbCI6ImFAYi5jIn0".toList) := by decide +kernel
  have hheader : Jwt.segment? "e30".toList =
      some (Utf8.encode ((Json.obj []).render Json.compact)) := by decide +kernel
  have hpayload : Jwt.segment? "eyJlbWFpbCI6ImFAYi5jIn0".toList =
      some (Utf8.encode (sampleClaims.render Json.compact)) := by decide +kernel
  have hobject : Json.ofBytes 990 (Utf8.encode ((Json.obj []).render Json.compact)) =
      .ok (.obj []) :=
    Json.ofBytes_of_render (.obj []) rfl rfl (by decide +kernel)
  have hread : Jwt.headerOf .standard (Utf8.encode ((Json.obj []).render Json.compact)) =
      .ok (.obj []) :=
    Jwt.headerOf_eq_ok_iff.mpr ⟨[], rfl, hobject⟩
  simp only [Jwt.load, hlast, Jwt.found, bind, Except.bind, hfirst, hheader, hpayload, hread]
  rfl

theorem read_sampleAccessToken :
    Jwt.read .standard sampleAccessToken = .ok (.obj [], sampleClaims) := by
  have hclaims : Json.ofBytes 990 (Utf8.encode (sampleClaims.render Json.compact)) =
      .ok sampleClaims :=
    Json.ofBytes_of_render sampleClaims rfl rfl (by decide +kernel)
  exact Jwt.read_eq_ok_iff.mpr
    ⟨_, load_sampleAccessToken, rfl, rfl, Jwt.claims_eq_ok_iff.mpr ⟨_, rfl, hclaims⟩⟩

theorem ofToken_sampleAccessToken :
    Profile.ofToken .standard sampleAccessToken = .ok (sampleSession.identity.map .text) := by
  simp only [Profile.ofToken, read_sampleAccessToken]
  rfl

theorem obtained_sampleCallback :
    ((sampleGate false).obtained sampleCallback (.code "c" none) none).result =
      .ok sampleSession := by
  refine obtain_result_eq_ok_iff.mpr
    ⟨(TokenEndpoint.isSome_request? ..).trans tokenEndpoint_sampleGate, sampleToken,
      TokenEndpoint.read_granting sampleToken,
      ⟨sampleSession.identity.map .text, sampleSession.expiresAt⟩, ?_, ?_⟩
  · refine draft_eq_ok_iff.mpr ⟨?_, by decide⟩
    rw [profile]
    exact ofToken_sampleAccessToken
  · exact accept_eq_ok_iff.mpr ⟨by decide, by decide⟩

theorem course_sampleCallback :
    (sampleGate false).course sampleCallback.moment.now sampleCallback.visit =
      .exchange "c" none [] := by
  decide

theorem sealed_sampleCallback :
    (sampleGate false).sealed? sampleCallback = some (.session sampleSession) := by
  rw [sealed?, course_sampleCallback]
  simp only [obtained_sampleCallback]

/-- The user is led into the site, and told to keep the session. -/
theorem result_sampleCallback :
    ((sampleGate false).outcome sampleCallback).result =
      .ok (.redirect (sampleGate false).settings.postLoginPath
        [(sampleGate false).keepSession sampleCallback.memory.draws sampleSession] true) := by
  have hobtained := obtained_sampleCallback
  rw [obtained] at hobtained
  rw [outcome, step, course_sampleCallback]
  simp only [follow, exchange, hobtained, List.nil_append]

theorem cookie?_sampleReturn :
    sampleReturn.visit.cookie? "OIDC_AUTH_SESSION" =
      some ((sampleGate false).valueOf sampleCallback (.session sampleSession)) := by
  have hvalue := CookieCipher.encrypt_ne_empty (sampleGate false).settings.key
    (length_iv (sampleGate false) sampleCallback) (Sealed.session sampleSession).content
  simp [Visit.cookie?, sampleReturn, NameMap.get?, valueOf, hvalue]

theorem openedValues_sampleReturn :
    (sampleGate false).openedValues sampleReturn.visit =
      [(sampleGate false).valueOf sampleCallback (.session sampleSession)] := by
  have hopen : (sampleGate false).settings.isBypassed sampleReturn.visit.path = false := rfl
  have hpkce : (sampleGate false).usePkce = false := rfl
  have hname : (sampleGate false).settings.cookieName = "OIDC_AUTH_SESSION" := rfl
  rw [openedValues, hopen, hpkce, hname, cookie?_sampleReturn]
  rfl

theorem history_sampleVisits :
    (sampleGate false).history {} sampleVisits = [sampleCallback] ++ [sampleReturn] := rfl

theorem unforged_sampleVisits : (sampleGate false).Unforged {} sampleVisits := by
  refine unforged_of_returned fun past record later hhistory value hvalue => ?_
  rw [history_sampleVisits] at hhistory
  match past with
  | [] =>
    obtain ⟨rfl, -⟩ := List.cons.inj hhistory
    cases hvalue
  | [earlier] =>
    obtain ⟨rfl, hlast⟩ := List.cons.inj hhistory
    obtain ⟨rfl, -⟩ := List.cons.inj hlast
    rw [openedValues_sampleReturn, List.mem_singleton] at hvalue
    exact ⟨_, List.mem_singleton_self _, _, sealed_sampleCallback, hvalue⟩
  | first :: second :: past => simp at hhistory

theorem groups_sampleReturn : sampleReturn.memory.groups = {} := by
  rw [sampleReturn, outcome, step, course_sampleCallback]
  simp only [follow, exchange]
  split <;> rfl

theorem resumes_sampleReturn : (sampleGate false).Resumes sampleReturn.visit sampleSession := by
  refine ⟨rfl, _, cookie?_sampleReturn, ?_⟩
  rw [valueOf_session]
  exact Session.ofCookieValue_toCookieValue _ (length_iv _ _) rfl (by decide)

theorem result_sampleReturn :
    ((sampleGate false).outcome sampleReturn).result =
      .ok (.forward "a@b.c" sampleSession.identity [] []) := by
  refine result_of_fresh_session resumes_sampleReturn (by decide) (by decide) ?_
  rw [groups_sampleReturn]
  decide

/-! ### Authenticity -/

/-- The provider has told of whoever is forwarded, in the same visit or in an earlier one, with an
access token that the gate has verified if it is to verify them. The user id is the one that the
settings take from the identity, and it is not blank. -/
theorem forward_authentic {settings : CheckedSettings} {metadata : ProviderMetadata}
    {usePkce : Bool} {entropy : Entropy}
    (hgate : make platform settings metadata usePkce entropy = .ok gate) {memory : GateMemory}
    {visits : List (Moment × Visit)} (hunforged : gate.Unforged memory visits)
    {past later : List Record} (hhistory : gate.history memory visits = past ++ record :: later)
    {userId : String} {identity : Identity} {groups : List String} {cookies : List Cookie}
    (hforward : (gate.outcome record).result = .ok (.forward userId identity groups cookies)) :
    (∃ source ∈ past ++ [record], ∃ token, gate.Grants source token identity ∧
      (settings.tokenTrust = .verified → ∃ verifier, gate.verifier = some verifier ∧
        (verifier.verify source.moment.now token.accessToken (errand source)).1 =
          .ok (identity.map .text))) ∧
      settings.idStrategy.userId? identity = some userId ∧ isBlankText userId = false := by
  obtain ⟨session, huser, rfl, hsource⟩ := forward_cases hforward
  obtain ⟨source, hmem, hsealed⟩ :
      ∃ source ∈ past ++ [record], gate.sealed? source = some (.session session) := by
    rcases hsource with ⟨value, hvalue, hok⟩ | hsealed
    · obtain ⟨earlier, hearlier, hsealed⟩ :=
        hunforged.sealed_of_opened_session hhistory hvalue hok
      exact ⟨earlier, List.mem_append_left _ hearlier, hsealed⟩
    · exact ⟨record, List.mem_append_right _ (List.mem_singleton_self record), hsealed⟩
  obtain ⟨hsettings, htrust⟩ := make_eq_ok hgate
  obtain ⟨token, hgrants⟩ := sealed_session_grants hsealed
  rw [Session.userId?, strategy_of_sealed_session hsealed, hsettings] at huser
  refine ⟨⟨source, hmem, token, hgrants, fun hverified => ?_⟩, huser,
    IdStrategy.not_blank_of_userId? huser⟩
  obtain ⟨verifier, hverifier⟩ := Option.isSome_iff_exists.mp (htrust hverified)
  refine ⟨verifier, hverifier, ?_⟩
  have htold := hgrants.told
  rw [profile, hverifier] at htold
  exact htold

/-- The user who comes back after the login is the one of whom the token told. -/
theorem forward_authentic_after_login :
    (sampleGate false).Unforged {} sampleVisits ∧
      ((sampleGate false).outcome sampleReturn).result =
        .ok (.forward "a@b.c" sampleSession.identity [] []) ∧
      (∃ source ∈ [sampleCallback] ++ [sampleReturn], ∃ token,
        (sampleGate false).Grants source token sampleSession.identity ∧
        (sampleSettings.tokenTrust = .verified → ∃ verifier,
          (sampleGate false).verifier = some verifier ∧
            (verifier.verify source.moment.now token.accessToken (errand source)).1 =
              .ok (sampleSession.identity.map .text))) ∧
      sampleSettings.idStrategy.userId? sampleSession.identity = some "a@b.c" ∧
      isBlankText "a@b.c" = false :=
  ⟨unforged_sampleVisits, result_sampleReturn, forward_authentic (make_sampleGate false)
    unforged_sampleVisits history_sampleVisits result_sampleReturn⟩

end LoginGate.Gate
