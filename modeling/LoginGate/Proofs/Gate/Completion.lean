import LoginGate.Proofs.Gate.Aftermath
import LoginGate.Proofs.Gate.Contact
import LoginGate.Proofs.Gate.Lifetime
import LoginGate.Proofs.Gate.Publication
import LoginGate.Proofs.Jwt.Profile
import LoginGate.Proofs.Text.NameMap

/-!
# Logins that succeed

A user comes without a session, is led to the provider, comes back with a code and with the state
from the address, and the provider grants a token. Then the user is let in: the callback leads into
the site with a session, and whatever closed path is asked for next is forwarded as that user, up
to the last microsecond of the session. In between the browser may ask for whatever is open to
everybody, which changes neither its jar nor what the gate remembers.

## Main definitions

* `Url.query`, `Url.stateIn?` : the query of an address, and the state in it.
* `Gate.Starts`, `Gate.Returns` : the first visit of a login, and the callback.
* `Gate.Identifies` : the token endpoint tells who the user is.

## Main results

* `Gate.stateIn?_authorizationUrl` : the state is found in the address of the login.
* `Gate.next_of_browse` : what stays the same until the next visit to a closed path.
* `Gate.sealed_of_returns` : a callback begins a session.
* `Gate.login_completes` : a login succeeds.
-/

namespace LoginGate

/-! ### The state in an address -/

namespace Form

theorem hash_not_mem_encodePair (pair : String × String) : '#' ∉ encodePair pair := by
  rw [encodePair, List.mem_append, List.mem_cons]
  rintro (h | h | h)
  · exact not_mem_encodeText (by decide) _ h
  · exact absurd h (by decide)
  · exact not_mem_encodeText (by decide) _ h

/-- No fragment begins in a form. -/
theorem hash_not_mem_encodeChars (pairs : List (String × String)) : '#' ∉ encodeChars pairs := by
  match pairs with
  | [] => exact List.not_mem_nil
  | [pair] => exact hash_not_mem_encodePair pair
  | pair :: second :: pairs =>
    rw [encodeChars, List.mem_append, List.mem_cons]
    · rintro (h | h | h)
      · exact hash_not_mem_encodePair pair h
      · exact absurd h (by decide)
      · exact hash_not_mem_encodeChars (second :: pairs) h
    · simp

end Form

namespace Url

/-- The query of an address: what stands between the first question mark and the fragment. -/
def query (address : String) : List Char := afterMark (address.toList.takeWhile (· ≠ '#'))

theorem query_of_not_mem {address : String} (h : '#' ∉ address.toList) :
    query address = afterMark address.toList := by
  rw [query, List.takeWhile_eq_self_iff.mpr]
  intro c hc
  rw [decide_eq_true_eq]
  rintro rfl
  exact h hc

/-- The state in the query of an address. Where there are several, the last one counts. -/
def stateIn? (address : String) : Option String :=
  (NameMap.ofPairs (Form.decode (query address))).get? "state"

end Url

namespace Gate

variable {gate : Gate} {record : Record}

theorem hash_not_mem_authorizationUrl
    (hfragment : '#' ∉ gate.metadata.authorizationEndpoint.toList) (more : NameMap) :
    '#' ∉ (gate.authorizationUrl more).toList := by
  simp only [authorizationUrl, Form.encode, String.toList_append, String.toList_ofList,
    List.mem_append, not_or]
  refine ⟨⟨hfragment, ?_⟩, Form.hash_not_mem_encodeChars _⟩
  split <;> decide

/-- The address of a login carries the state of its attempt. -/
theorem stateIn?_authorizationUrl
    (hfragment : '#' ∉ gate.metadata.authorizationEndpoint.toList) (attempt : LoginAttempt) :
    Url.stateIn? (gate.authorizationUrl (attemptParameters attempt)) = some attempt.state := by
  rw [Url.stateIn?, Url.query_of_not_mem (hash_not_mem_authorizationUrl hfragment _),
    decode_authorizationUrl, insertAll_attemptParameters, ← List.append_assoc, NameMap.ofPairs,
    NameMap.insertAll_append]
  simp only [attemptParameters, NameMap.insertAll, List.foldl_cons, List.foldl_nil,
    NameMap.get?_insert]
  simp

/-! ### From visit to visit -/

/-- What a browser brings, and what it does next. -/
theorem browse_eq_cons {memory : GateMemory} {jar : CookieJar} {clicks : List Click}
    {records : List Record} (h : gate.browse memory jar clicks = record :: records) :
    record.memory = memory ∧ record.visit.cookies = jar ∧
      ∃ clicks', gate.browse (gate.outcome record).memory (gate.jarAfter record) clicks' =
        records := by
  cases clicks with
  | nil => cases h
  | cons click clicks =>
    obtain ⟨rfl, rfl⟩ := List.cons.inj h
    exact ⟨rfl, rfl, clicks, rfl⟩

theorem jarAfter_of_bypassed (h : gate.settings.isBypassed record.visit.path) :
    gate.jarAfter record = record.visit.cookies := by
  rw [jarAfter, outcome_of_bypassed h]
  rfl

/-- Visits to open paths change neither the jar nor what is remembered. -/
theorem next_of_browse {memory : GateMemory} {jar : CookieJar} {clicks : List Click}
    {passing later : List Record} {next : Record}
    (h : gate.browse memory jar clicks = passing ++ next :: later)
    (hopen : ∀ passed ∈ passing, gate.settings.isBypassed passed.visit.path) :
    next.memory = memory ∧ next.visit.cookies = jar ∧
      ∃ clicks', gate.browse (gate.outcome next).memory (gate.jarAfter next) clicks' = later := by
  induction passing generalizing clicks with
  | nil => exact browse_eq_cons h
  | cons passed passing ih =>
    obtain ⟨hmemory, hjar, clicks', hrest⟩ := browse_eq_cons h
    have hpassed := hopen passed List.mem_cons_self
    rw [outcome_of_bypassed hpassed, jarAfter_of_bypassed hpassed, hmemory, hjar] at hrest
    exact ih hrest fun other hother => hopen other (List.mem_cons_of_mem _ hother)

/-! ### A login -/

/-- A login begins: the path is not open to everybody, there is no session, and the provider has
sent neither a code nor an error. -/
structure Starts (gate : Gate) (visit : Visit) : Prop where
  closed : gate.settings.isBypassed visit.path = false
  session : visit.cookie? gate.settings.cookieName = none
  error : visit.parameter? "error" = none
  code : visit.parameter? "code" = none

/-- The provider leads the user back, with a code and no error, and with a state where login
attempts are bound. -/
structure Returns (gate : Gate) (visit : Visit) (state : Option String) : Prop where
  closed : gate.settings.isBypassed visit.path = false
  error : visit.parameter? "error" = none
  code : (visit.parameter? "code").isSome
  state : gate.usePkce → visit.query.get? "state" = state

/-- The token endpoint tells who the user is: it grants a token that begins with the access token of
an identity with an id, and the lifetime ends before the year 10000. -/
structure Identifies (gate : Gate) (moment : Moment) (token : Token) (userId : String)
    (identity : Identity) : Prop where
  answered : ∃ message, moment.tokenAnswer = .message message ∧ message.status = 200 ∧
    Schema.document TokenAnswer.reader message.body = .valid (.granted token)
  told : ∃ header claims, Jwt.read gate.platform token.accessToken = .ok (header, claims) ∧
    claims.isTextual ∧ Claims.identity claims = identity
  user : gate.settings.idStrategy.userId? identity = some userId
  clock : Timestamp.inRange moment.now
  expiry : moment.now + gate.lifetime token * microsPerSecond ≤ Timestamp.maxWall

theorem course_of_starts (h : gate.Starts record.visit) :
    gate.course record.moment.now record.visit = .login [] := by
  rw [course, h.closed, if_neg Bool.false_ne_true, h.session]
  simp only [courseOfLogin, h.error, h.code]

theorem outcome_of_starts (h : gate.Starts record.visit) :
    gate.outcome record = gate.leadToProvider record.memory [] := by
  rw [outcome, step, course_of_starts h]
  rfl

theorem not_spoils_of_cookie? (h : record.visit.cookie? gate.settings.cookieName = none) :
    ¬ gate.Spoils record := by
  rintro ⟨value, hvalue, -⟩
  rw [h] at hvalue
  cases hvalue

theorem jarAfter_of_result {decision : Decision}
    (h : (gate.outcome record).result = .ok decision) (name : String) :
    NameMap.get? (gate.jarAfter record) name = valueAfter? record decision name := by
  rw [jarAfter, h]
  rfl

theorem state_nextAttempt_ne_empty (gate : Gate) (draws : Draws) :
    (gate.nextAttempt draws).state ≠ "" := by
  intro hempty
  have hlength := congrArg (fun text : String => text.toList.length) hempty
  simp [nextAttempt, LoginAttempt.ofRandom, Base64.encode, Base64.length_encodeChars,
    Entropy.state] at hlength

/-- The first visit of a login leads to the provider. -/
theorem result_of_starts (h : gate.Starts record.visit) :
    ∃ location cookies,
      (gate.outcome record).result = .ok (.redirect location cookies false) := by
  rw [outcome_of_starts h]
  exact gate.result_leadToProvider_cases record.memory []

/-- It leaves the jar without a session. -/
theorem session_jarAfter_of_starts (h : gate.Starts record.visit) :
    NameMap.get? (gate.jarAfter record) gate.settings.cookieName =
      NameMap.get? record.visit.cookies gate.settings.cookieName := by
  obtain ⟨location, cookies, hresult⟩ := result_of_starts h
  have hnone : ∀ session, gate.sealed? record ≠ some (.session session) := by
    intro session hsealed
    rw [sealed?, course_of_starts h] at hsealed
    cases (sealedByLogin?_eq hsealed).2
  rw [jarAfter_of_result hresult]
  exact (valueAfter?_of_not_sealed_session h.closed hresult hnone).2
    (not_spoils_of_cookie? h.session)

/-- Where login attempts are bound, it leaves the attempt in the jar whose state the address
carries. -/
theorem attempt_jarAfter_of_starts (hfragment : '#' ∉ gate.metadata.authorizationEndpoint.toList)
    (h : gate.Starts record.visit) (hpkce : gate.usePkce) {location : String}
    {cookies : List Cookie}
    (hresult : (gate.outcome record).result = .ok (.redirect location cookies false)) :
    ∃ attempt, NameMap.get? (gate.jarAfter record) gate.settings.stateCookieName =
        some (gate.valueOf record (.attempt attempt)) ∧
      Url.stateIn? location = some attempt.state ∧ attempt.state ≠ "" := by
  have hsealed : gate.sealed? record =
      some (.attempt (gate.nextAttempt record.memory.draws)) := by
    rw [sealed?, course_of_starts h]
    exact if_pos hpkce
  obtain ⟨-, kept, hled⟩ := sealed_attempt hsealed
  cases hresult.symm.trans hled
  refine ⟨_, ?_, stateIn?_authorizationUrl hfragment _, state_nextAttempt_ne_empty gate _⟩
  rw [jarAfter_of_result hresult]
  exact valueAfter?_of_sealed_attempt h.closed hresult hsealed

/-- The callback of a login redeems its code. -/
theorem redeems_of_returns (hfragment : '#' ∉ gate.metadata.authorizationEndpoint.toList)
    {login : Record} (hstarts : gate.Starts login.visit) {location : String}
    {cookies : List Cookie}
    (hresult : (gate.outcome login).result = .ok (.redirect location cookies false))
    {visit : Visit} (hjar : visit.cookies = gate.jarAfter login)
    (h : gate.Returns visit (Url.stateIn? location)) : gate.Redeems visit := by
  have hsession : visit.cookie? gate.settings.cookieName = none := by
    rw [Visit.cookie?, hjar, session_jarAfter_of_starts hstarts]
    exact hstarts.session
  refine ⟨⟨h.closed, by rw [lacksSession, hsession]⟩, h.error, h.code, fun hpkce => ?_⟩
  obtain ⟨attempt, hvalue, hstate, hne⟩ :=
    attempt_jarAfter_of_starts hfragment hstarts hpkce hresult
  refine ⟨_, attempt, ?_, ofCookieValue_valueOf_attempt gate login attempt, ?_⟩
  · rw [Visit.cookie?, hjar, hvalue, Option.filter_some, if_pos]
    simpa using valueOf_ne_empty gate login (.attempt attempt)
  · rw [Visit.parameter?, h.state hpkce, hstate, Option.filter_some, if_pos]
    simpa using hne

/-- Where the token endpoint tells who the user is, a session of that user is obtained. -/
theorem obtain_of_identifies (hage : 0 < gate.settings.cookieMaxAgeSeconds)
    (hlocal : gate.verifier = none) (hendpoint : gate.tokenEndpoint.address?.isSome)
    {moment : Moment} {token : Token} {userId : String} {identity : Identity}
    (h : gate.Identifies moment token userId identity) (keys : Jwt.KeyStore) (grant : Grant)
    (previous : Option String) :
    (gate.obtain moment keys grant previous).result =
      .ok ⟨identity, nextRefreshToken token previous, gate.lifetime token,
        .ofInstant (moment.now + gate.lifetime token * microsPerSecond),
        gate.settings.idStrategy⟩ := by
  obtain ⟨header, claims, hread, htextual, rfl⟩ := h.told
  have hrange : Timestamp.inRange (moment.now + gate.lifetime token * microsPerSecond) := by
    have hpositive : 0 < gate.lifetime token := by
      rw [lifetime]
      split
      · split <;> omega
      · exact hage
    have hclock : Timestamp.minWall ≤ moment.now := by
      have hclock := h.clock
      rw [Timestamp.inRange, Bool.and_eq_true, decide_eq_true_eq] at hclock
      exact hclock.1
    have hlong : 0 ≤ gate.lifetime token * microsPerSecond :=
      Int.mul_nonneg (Int.le_of_lt hpositive) (by decide)
    rw [Timestamp.inRange, Bool.and_eq_true, decide_eq_true_eq, decide_eq_true_eq]
    exact ⟨by omega, h.expiry⟩
  have hprofile : (gate.profile moment.now token.accessToken ⟨keys, moment.keyAnswers, 0⟩).1 =
      .ok ((Claims.identity claims).map .text) := by
    rw [profile, hlocal]
    exact Profile.ofToken_of_isTextual hread htextual
  refine obtain_result_eq_ok_iff.mpr ⟨(TokenEndpoint.isSome_request? ..).trans hendpoint, token,
    TokenEndpoint.read_eq_ok_iff.mpr h.answered, ⟨(Claims.identity claims).map .text, _⟩,
    draft_eq_ok_iff.mpr ⟨hprofile, Timestamp.after?_eq_some_iff.mpr ⟨hrange, rfl⟩⟩,
    accept_eq_ok_iff.mpr ⟨?_, session?_eq_some_iff.mpr ⟨rfl, rfl⟩⟩⟩
  rw [hasUser, Profile.map_shown_map_text, h.user]
  rfl

/-- A session in a jar is forwarded until its lifetime is over. -/
theorem forwards_of_jarAfter (hage : 0 < gate.settings.cookieMaxAgeSeconds)
    {decision : Decision} (hclosed : gate.settings.isBypassed record.visit.path = false)
    (hresult : (gate.outcome record).result = .ok decision)
    (hclock : Timestamp.inRange record.moment.now) {session : Session}
    (hsealed : gate.sealed? record = some (.session session)) {userId : String}
    (huser : session.userId? = some userId) {back : Record}
    (hjar : back.visit.cookies = gate.jarAfter record)
    (hback : gate.settings.isBypassed back.visit.path = false)
    (hfresh : session.isExpired? back.moment.now = some false)
    (hsize : back.memory.groups.canRecord) :
    (gate.outcome back).result =
      .ok (.forward userId session.identity session.identity.groupsAndRoles []) := by
  refine result_of_fresh_session ⟨hback, gate.valueOf record (.session session), ?_,
    ofCookieValue_of_sealed hclock hsealed⟩ hfresh huser hsize
  rw [Visit.cookie?, hjar, jarAfter_of_result hresult,
    valueAfter?_of_sealed_session hclosed hresult hage hsealed, Option.filter_some, if_pos]
  simpa using valueOf_ne_empty gate record (.session session)

/-- A login succeeds. Whoever comes without a session is led to the provider. If the browser comes
back with a code and with the state from the address, and the token endpoint tells who the user is,
then the callback leads into the site, and the next visit to a closed path is forwarded as that
user, up to the last microsecond of the session. -/
theorem login_completes {settings : Settings}
    (hcheck : settings.check gate.platform = .ok gate.settings)
    (hlocal : gate.verifier = none) (hendpoint : gate.tokenEndpoint.address?.isSome)
    (hfragment : '#' ∉ gate.metadata.authorizationEndpoint.toList) {memory : GateMemory}
    (hsize : memory.groups.canRecord) {jar : CookieJar} {clicks : List Click}
    {login callback : Record} {passing rest : List Record}
    (hbrowse : gate.browse memory jar clicks = login :: (passing ++ callback :: rest))
    (hopen : ∀ passed ∈ passing, gate.settings.isBypassed passed.visit.path)
    (hstarts : gate.Starts login.visit) :
    ∃ location cookies, (gate.outcome login).result = .ok (.redirect location cookies false) ∧
      (gate.Returns callback.visit (Url.stateIn? location) →
        ∀ token userId identity, gate.Identifies callback.moment token userId identity →
          (∃ cookies', (gate.outcome callback).result =
            .ok (.redirect gate.settings.postLoginPath cookies' true)) ∧
          ∀ passing' back later, rest = passing' ++ back :: later →
            (∀ passed ∈ passing', gate.settings.isBypassed passed.visit.path) →
            gate.settings.isBypassed back.visit.path = false →
            back.moment.now ≤ callback.moment.now + gate.lifetime token * microsPerSecond →
            (gate.outcome back).result =
              .ok (.forward userId identity identity.groupsAndRoles [])) := by
  obtain ⟨location, cookies, hresult⟩ := result_of_starts hstarts
  refine ⟨location, cookies, hresult, fun hreturns token userId identity hidentifies => ?_⟩
  obtain ⟨rfl, -, clicks', hrest⟩ := browse_eq_cons hbrowse
  obtain ⟨hmemory, hjar, clicks'', hrest⟩ := next_of_browse hrest hopen
  have hage := Settings.maxAge_pos_of_check hcheck
  obtain ⟨code, verifier, kept, hcourse⟩ := (course_eq_exchange_iff callback.moment.now).mpr
    (redeems_of_returns hfragment hstarts hresult hjar hreturns)
  have hobtained := obtain_of_identifies hage hlocal hendpoint hidentifies callback.memory.keys
    (.code code verifier) none
  have hled : ∃ cookies', (gate.outcome callback).result =
      .ok (.redirect gate.settings.postLoginPath cookies' true) := by
    rw [outcome, step, hcourse]
    simp only [follow, exchange, hobtained]
    exact ⟨_, rfl⟩
  refine ⟨hled, ?_⟩
  rintro passing' back later rfl hopen' hback hbefore
  obtain ⟨cookies', hled⟩ := hled
  obtain ⟨hmemory', hjar', -⟩ := next_of_browse hrest hopen'
  have hsealed := @sealed_of_obtained gate callback (.code code verifier) _
    (by rw [hcourse]; rfl) (by rw [hcourse]; exact hobtained)
  have hgroups : back.memory.groups = login.memory.groups := by
    rw [hmemory', outcome, step, hcourse, follow, groups_exchange, hmemory,
      outcome_of_starts hstarts, groups_leadToProvider]
  refine forwards_of_jarAfter hage hreturns.closed hled hidentifies.clock hsealed
    hidentifies.user hjar' hback ?_ (by rw [hgroups]; exact hsize)
  simpa [Session.isExpired?, Timestamp.instant?, Timestamp.ofInstant] using hbefore

/-! ### A login, and the last microsecond of its session -/

/-- The provider leads the user back from a login, and grants a token. -/
def sampleLoginCallback : Record where
  memory := ((sampleGate true).outcome sampleLogin).memory
  moment := ⟨0, TokenEndpoint.granting sampleToken, []⟩
  visit :=
    { path := "/callback"
      query := [("code", "c"), ("state", sampleAttempt.state)]
      cookies := (sampleGate true).jarAfter sampleLogin }

/-- The user asks for the site again, in the last microsecond of the session. -/
def sampleLoginReturn : Record where
  memory := ((sampleGate true).outcome sampleLoginCallback).memory
  moment := ⟨43200000000, .none "", []⟩
  visit := { cookies := (sampleGate true).jarAfter sampleLoginCallback }

/-- What the browser asks for. -/
def sampleLoginClicks : List Click :=
  [sampleLogin, sampleLoginCallback, sampleLoginReturn].map fun record =>
    ⟨record.moment, record.visit.path, record.visit.query⟩

theorem browse_sampleLoginClicks :
    (sampleGate true).browse {} [] sampleLoginClicks =
      sampleLogin :: ([] ++ sampleLoginCallback :: [sampleLoginReturn]) := rfl

theorem identifies_sampleToken :
    (sampleGate true).Identifies ⟨0, TokenEndpoint.granting sampleToken, []⟩ sampleToken "a@b.c"
      sampleSession.identity where
  answered := TokenEndpoint.read_eq_ok_iff.mp
    (@TokenEndpoint.read_granting (sampleGate true).tokenEndpoint sampleToken)
  told := ⟨_, _, read_sampleAccessToken, rfl, rfl⟩
  user := by decide
  clock := by decide
  expiry := by decide

/-- The login succeeds, and its session is in force in the last microsecond. -/
theorem login_completes_until_last_microsecond :
    sampleSettings.toSettings.check .standard = .ok (sampleGate true).settings ∧
      (sampleGate true).browse {} [] sampleLoginClicks =
        [sampleLogin, sampleLoginCallback, sampleLoginReturn] ∧
      (sampleGate true).Starts sampleLogin.visit ∧
      ∃ location cookies cookies',
        ((sampleGate true).outcome sampleLogin).result =
          .ok (.redirect location cookies false) ∧
        (sampleGate true).Returns sampleLoginCallback.visit (Url.stateIn? location) ∧
        ((sampleGate true).outcome sampleLoginCallback).result =
          .ok (.redirect "/" cookies' true) ∧
        ((sampleGate true).outcome sampleLoginReturn).result =
          .ok (.forward "a@b.c" sampleSession.identity [] []) := by
  have hstarts : (sampleGate true).Starts sampleLogin.visit := ⟨rfl, rfl, rfl, rfl⟩
  obtain ⟨location, cookies, hresult, hcompletes⟩ := login_completes check_sampleSettings rfl
    (by decide +kernel) (by decide) (by decide) browse_sampleLoginClicks (List.forall_mem_nil _)
    hstarts
  have hreturns :
      (sampleGate true).Returns sampleLoginCallback.visit (Url.stateIn? location) := by
    obtain ⟨-, kept, hled⟩ := sealed_attempt sealed_sampleLogin
    cases hresult.symm.trans hled
    exact ⟨rfl, by decide, by decide, fun _ => (stateIn?_authorizationUrl (by decide) _).symm⟩
  obtain ⟨⟨cookies', hled⟩, hforwards⟩ := hcompletes hreturns _ _ _ identifies_sampleToken
  exact ⟨check_sampleSettings, browse_sampleLoginClicks, hstarts, location, cookies, cookies',
    hresult, hreturns, hled, hforwards [] _ [] rfl (List.forall_mem_nil _) rfl (by decide)⟩

end Gate

end LoginGate
