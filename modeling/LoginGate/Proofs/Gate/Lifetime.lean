import LoginGate.Proofs.Gate.Authenticity
import LoginGate.Proofs.Gate.Cookies

/-!
# How long a session lasts

A session begins in the visit in which the provider grants a token, and the browser is told to keep
it. Until the lifetime that the token says is over, to the microsecond, whoever brings the session
is forwarded as the user of whom the token tells, and the provider is not asked. From then on the
session is to be renewed, with the refresh token that it keeps if there is one.

## Main definitions

* `Gate.InForce` : a visit in which a session is in force.
* `Gate.IsOver` : a visit in which a session is over.

## Main results

* `Gate.isExpired?_of_madeOf` : when the lifetime of a session is over.
* `Gate.inForce_of_fresh_session`, `Gate.isOver_of_expired_session` : what comes of a visit.
* `Gate.lasts` : how long the session of a cookie lasts.
-/

namespace LoginGate

namespace Gate

variable {gate : Gate} {record : Record}

/-- A session is in force in a visit: its user is forwarded, the browser is told nothing, and the
provider is not asked. -/
structure InForce (gate : Gate) (record : Record) (userId : String) (identity : Identity) :
    Prop where
  forwards : (gate.outcome record).result =
    .ok (.forward userId identity identity.groupsAndRoles [])
  noRequest : (gate.outcome record).requests = []
  noFetch : (gate.outcome record).fetches = 0

/-- A session with a refresh token, or without one, is over in a visit: the token endpoint is asked
to renew it exactly if the refresh token is not blank, and is asked nothing else. -/
structure IsOver (gate : Gate) (record : Record) (refreshToken : Option String) : Prop where
  requests : (gate.outcome record).requests =
    ((refreshToken.filter (!isBlankText ·)).bind
      fun text => gate.tokenEndpoint.request? (.refresh text)).toList
  asks_iff : (gate.outcome record).requests ≠ [] ↔
    ∃ text, refreshToken = some text ∧ isBlankText text = false

/-- The lifetime of a session that is made of a token is over from the microsecond on that follows
its last one. -/
theorem isExpired?_of_madeOf {moment : Moment} {keys : Jwt.KeyStore} {previous : Option String}
    {token : Token} {session : Session} (h : gate.MadeOf moment keys previous token session)
    (now : Instant) :
    session.isExpired? now =
      some (decide (moment.now + gate.lifetime token * microsPerSecond < now)) := by
  rw [Session.isExpired?, h.expiresAt, h.expiresIn, Timestamp.instant?, Timestamp.ofInstant]
  simp

/-- A session whose lifetime is over is renewed exactly with a refresh token that is not blank. -/
theorem grant?_courseOfSession {now : Instant} {session : Session}
    (hexpired : session.isExpired? now = some true) :
    (gate.courseOfSession now session).grant? =
      (session.refreshToken.filter (!isBlankText ·)).map .refresh := by
  obtain ⟨identity, refreshToken, expiresIn, expiresAt, strategy⟩ := session
  rw [courseOfSession, hexpired]
  cases refreshToken with
  | none => rfl
  | some text =>
    cases hblank : isBlankText text <;>
      simp [Session.hasRefreshToken, Option.filter, hblank, Course.grant?]

/-- A session whose lifetime is not over is in force. -/
theorem inForce_of_fresh_session {session : Session} {userId : String}
    (hresumes : gate.Resumes record.visit session)
    (hfresh : session.isExpired? record.moment.now = some false)
    (huser : session.userId? = some userId) (hsize : record.memory.groups.canRecord) :
    gate.InForce record userId session.identity where
  forwards := result_of_fresh_session hresumes hfresh huser hsize
  noRequest := by rw [outcome_of_fresh_session hresumes hfresh, (gate.forward_asks_nobody ..).1]
  noFetch := by rw [outcome_of_fresh_session hresumes hfresh, (gate.forward_asks_nobody ..).2]

/-- A session whose lifetime is over is over, if requests can go to the token endpoint. -/
theorem isOver_of_expired_session {session : Session}
    (hendpoint : gate.tokenEndpoint.address?.isSome) (hresumes : gate.Resumes record.visit session)
    (hexpired : session.isExpired? record.moment.now = some true) :
    gate.IsOver record session.refreshToken := by
  have hrequests : (gate.outcome record).requests =
      ((session.refreshToken.filter (!isBlankText ·)).bind
        fun text => gate.tokenEndpoint.request? (.refresh text)).toList := by
    rw [outcome, requests_step, course_of_resumes hresumes, grant?_courseOfSession hexpired,
      Option.bind_map]
    rfl
  refine ⟨hrequests, ?_⟩
  rw [hrequests, ne_eq, Option.toList_eq_nil_iff]
  cases session.refreshToken with
  | none => simp
  | some text =>
    have hrequest : gate.tokenEndpoint.request? (.refresh text) ≠ none := by
      rw [Option.ne_none_iff_isSome, TokenEndpoint.isSome_request?]
      exact hendpoint
    cases hblank : isBlankText text <;> simp [hblank, hrequest]

/-- Requests can go to the token endpoint of a gate that has obtained a session. -/
theorem tokenEndpoint_of_sealed {session : Session}
    (h : gate.sealed? record = some (.session session)) :
    gate.tokenEndpoint.address?.isSome := by
  obtain ⟨grant, -, hresult⟩ := sealed_session h
  obtain ⟨hasked, -⟩ := obtain_result_eq_ok_iff.mp hresult
  rwa [TokenEndpoint.isSome_request?] at hasked

/-- Whoever is forwarded in a visit in which a session is obtained is the user of that session. -/
theorem forward_of_sealed {session : Session} {userId : String} {identity : Identity}
    {groups : List String} {cookies : List Cookie}
    (h : gate.sealed? record = some (.session session))
    (hresult : (gate.outcome record).result = .ok (.forward userId identity groups cookies)) :
    session.userId? = some userId ∧ session.identity = identity ∧
      identity.groupsAndRoles = groups := by
  obtain ⟨memory, moment, visit⟩ := record
  obtain ⟨grant, hgrant, hobtained⟩ := sealed_session h
  simp only [outcome, step] at hresult
  simp only [obtained] at hgrant hobtained
  cases hcourse : gate.course moment.now visit with
  | renew old =>
    rw [hcourse] at hresult hgrant hobtained
    cases hgrant
    simp only [Course.previous?] at hobtained
    simp only [follow, renew, hobtained] at hresult
    exact forward_eq_ok_forward hresult
  | exchange code verifier kept =>
    rw [hcourse] at hresult hgrant hobtained
    cases hgrant
    simp only [Course.previous?] at hobtained
    simp only [follow, exchange, hobtained] at hresult
    cases hresult
  | _ => simp [hcourse, Course.grant?] at hgrant

/-- The user comes back with the session of a login at some time. -/
def sampleReturnAt (now : Instant) : Record :=
  { sampleReturn with moment := ⟨now, .none "", []⟩ }

/-- The only token that is granted in the login, and the only user of whom it tells. -/
theorem eq_of_grants_sampleCallback {token : Token} {identity : Identity}
    (h : (sampleGate false).Grants sampleCallback token identity) :
    token = sampleToken ∧ identity = sampleSession.identity := by
  have hread : (sampleGate false).tokenEndpoint.read sampleCallback.moment.tokenAnswer =
      .ok token := TokenEndpoint.read_eq_ok_iff.mpr h.answered
  have htoken : token = sampleToken :=
    Except.ok.inj (hread.symm.trans (TokenEndpoint.read_granting sampleToken))
  subst htoken
  have htold : (Except.ok (sampleSession.identity.map .text) :
      Except TokenFailure (Profile CodeString)) = .ok (identity.map .text) :=
    ofToken_sampleAccessToken.symm.trans h.told
  refine ⟨rfl, ?_⟩
  rw [← Profile.map_shown_map_text identity, ← Except.ok.inj htold, Profile.map_shown_map_text]

/-! ### The session of a cookie -/

/-- A session that the browser is told to keep lasts as long as its token says. In the visit the
provider tells of its user. Wherever the path is not open to everybody, whoever brings the session
is forwarded as that user until the lifetime is over, and from then on it is to be renewed. -/
theorem lasts {decision : Decision} {cookie : Cookie}
    (hclock : Timestamp.inRange record.moment.now)
    (hresult : (gate.outcome record).result = .ok decision) (hcookie : cookie ∈ decision.cookies)
    (hname : cookie.name = gate.settings.cookieName) (hvalue : cookie.value ≠ "") :
    ∃ token identity userId, gate.Grants record token identity ∧
      gate.settings.idStrategy.userId? identity = some userId ∧
      (∀ userId' identity' groups cookies, decision = .forward userId' identity' groups cookies →
        userId' = userId ∧ identity' = identity ∧ groups = identity.groupsAndRoles) ∧
      ∀ later : Record, gate.settings.isBypassed later.visit.path = false →
        later.visit.cookie? gate.settings.cookieName = some cookie.value →
        (later.moment.now ≤ record.moment.now + gate.lifetime token * microsPerSecond →
          later.memory.groups.canRecord → gate.InForce later userId identity) ∧
        (record.moment.now + gate.lifetime token * microsPerSecond < later.moment.now →
          gate.IsOver later (nextRefreshToken token
            (gate.course record.moment.now record.visit).previous?)) := by
  obtain ⟨session, hsealed, hkept⟩ :=
    (tells_of_mem_cookies hresult hcookie).exists_session hname hvalue
  obtain ⟨token, hmade⟩ := madeOf_of_sealed hsealed
  obtain ⟨userId, huser⟩ := Option.isSome_iff_exists.mp hmade.user
  refine ⟨token, session.identity, userId, grants_of_madeOf hsealed hmade, ?_, ?_, ?_⟩
  · rw [← hmade.strategy]
    exact huser
  · rintro userId' identity' groups cookies rfl
    obtain ⟨huser', hidentity, hgroups⟩ := forward_of_sealed hsealed hresult
    rw [huser] at huser'
    cases huser'
    exact ⟨rfl, hidentity.symm, by rw [hidentity, hgroups]⟩
  · intro later hclosed hbrought
    have hresumes : gate.Resumes later.visit session :=
      ⟨hclosed, cookie.value, hbrought, by rw [hkept, ofCookieValue_of_sealed hclock hsealed]⟩
    constructor
    · intro hbefore hsize
      refine inForce_of_fresh_session hresumes ?_ huser hsize
      rw [isExpired?_of_madeOf hmade, decide_eq_false (Int.not_lt.mpr hbefore)]
    · intro hafter
      rw [← hmade.refreshToken]
      refine isOver_of_expired_session (tokenEndpoint_of_sealed hsealed) hresumes ?_
      rw [isExpired?_of_madeOf hmade, decide_eq_true hafter]

/-- The session of a login at the start of 1970 is in force in the last microsecond of its twelve
hours, and over in the next one. -/
theorem lasts_after_login :
    Timestamp.inRange sampleCallback.moment.now ∧
      (∃ location cookie, ((sampleGate false).outcome sampleCallback).result =
          .ok (.redirect location [cookie] true) ∧
        cookie.name = (sampleGate false).settings.cookieName ∧ cookie.value ≠ "" ∧
        sampleReturn.visit.cookie? cookie.name = some cookie.value) ∧
      (sampleGate false).InForce (sampleReturnAt 43200000000) "a@b.c" sampleSession.identity ∧
      (sampleGate false).IsOver (sampleReturnAt 43200000001) none := by
  have hclock : Timestamp.inRange sampleCallback.moment.now := by decide
  have hbrought := cookie?_sampleReturn
  have hvalue : ((sampleGate false).keepSession sampleCallback.memory.draws
      sampleSession).value ≠ "" := by
    rw [← String.isEmpty_eq_false_iff]
    exact CookieCipher.encrypt_ne_empty _ (length_iv (sampleGate false) sampleCallback) _
  refine ⟨hclock, ⟨_, _, result_sampleCallback, rfl, hvalue, hbrought⟩, ?_⟩
  obtain ⟨token, identity, userId, hgrants, huser, -, hlasts⟩ :=
    lasts hclock result_sampleCallback (List.mem_singleton_self _) rfl hvalue
  obtain ⟨rfl, rfl⟩ := eq_of_grants_sampleCallback hgrants
  have hmail : (sampleGate false).settings.idStrategy.userId? sampleSession.identity =
      some "a@b.c" := by decide
  obtain rfl : "a@b.c" = userId := Option.some.inj (hmail.symm.trans huser)
  have hsize : (sampleReturnAt 43200000000).memory.groups.canRecord := by
    rw [sampleReturnAt, groups_sampleReturn]
    decide
  have hprevious : nextRefreshToken sampleToken ((sampleGate false).course
      sampleCallback.moment.now sampleCallback.visit).previous? = none := by
    rw [course_sampleCallback]
    rfl
  rw [hprevious] at hlasts
  exact ⟨(hlasts (sampleReturnAt 43200000000) rfl hbrought).1 (by decide) hsize,
    (hlasts (sampleReturnAt 43200000001) rfl hbrought).2 (by decide)⟩

end Gate

end LoginGate
