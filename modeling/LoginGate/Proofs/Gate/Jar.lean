import LoginGate.Proofs.Gate.Authenticity
import LoginGate.Proofs.Gate.Cookies

/-!
# A browser that keeps to what it is told

A browser starts with an empty jar, sends all of the jar with every request, and does what the
cookies of every decision tell. Whatever it asks for, and whatever clock and provider say, its jar
never holds anything that the gate would refuse.

## Main definitions

* `Gate.browse` : the visits of a browser, each with the jar that it brings.
* `Gate.Furnished` : what a jar holds is what the gate gives.
* `Gate.Smooth` : no visit is refused what it brings.

## Main results

* `Gate.Furnished.jarAfter` : a visit leaves a jar of the kind that it brought.
* `Gate.browse_smooth` : so is every jar of a browser, and all of its visits go smoothly.
-/

namespace LoginGate

/-! ### Jars -/

/-- What stands under a name after one cookie. -/
theorem CookieJar.get?_apply (jar : CookieJar) (cookie : Cookie) (name : String) :
    NameMap.get? (jar.apply cookie) name =
      if name = cookie.name then (if cookie.isDeletion then none else some cookie.value)
      else NameMap.get? jar name := by
  rw [CookieJar.apply]
  cases cookie.isDeletion with
  | true => exact NameMap.get?_erase jar cookie.name name
  | false => exact NameMap.get?_insert jar cookie.name cookie.value name

theorem Visit.get?_of_cookie? {visit : Visit} {name value : String}
    (h : visit.cookie? name = some value) : NameMap.get? visit.cookies name = some value :=
  (Option.filter_eq_some_iff.mp h).1

/-- A fresh login attempt carries the hash of its verifier. -/
theorem LoginAttempt.challenge?_ofRandom (verifierBytes stateBytes : Bytes) :
    challenge? (ofRandom verifierBytes stateBytes).codeVerifier =
      some (ofRandom verifierBytes stateBytes).codeChallenge := by
  have hascii : (ofRandom verifierBytes stateBytes).codeVerifier.toList.all (·.toNat < 128) := by
    rw [List.all_eq_true]
    intro c hc
    simp only [ofRandom, Base64.encode, String.toList_ofList] at hc
    obtain ⟨n, hn, rfl⟩ := Base64.exists_char_of_mem hc
    exact decide_eq_true (Base64.toNat_char_lt _ hn)
  rw [challenge?, if_pos hascii]
  rfl

/-- What a browser asks for, and what the world contributes then. -/
structure Click where
  moment : Moment
  path : String
  query : NameMap

namespace Gate

variable {gate : Gate} {record : Record}

/-- The jar after a visit: what the decision tells is done to what the visit has brought. -/
def jarAfter (gate : Gate) (record : Record) : CookieJar :=
  match (gate.outcome record).result with
  | .ok decision => CookieJar.applyAll record.visit.cookies decision.cookies
  | .error _ => record.visit.cookies

/-- The visits of a browser, each of which brings the jar that the one before has left. -/
def browse (gate : Gate) (memory : GateMemory) (jar : CookieJar) : List Click → List Record
  | [] => []
  | click :: clicks =>
    let record : Record := ⟨memory, click.moment, ⟨click.path, click.query, jar⟩⟩
    record :: gate.browse (gate.outcome record).memory (gate.jarAfter record) clicks

/-- A session that is kept is not told to be forgotten, unless cookies are kept for no time. -/
theorem isDeletion_keepSession (gate : Gate) (draws : Draws) (session : Session) :
    (gate.keepSession draws session).isDeletion = (gate.settings.cookieMaxAgeSeconds == 0) := by
  have hvalue : (session.toCookieValue gate.settings.key (gate.entropy.iv draws.ivs)).isEmpty =
      false := CookieCipher.encrypt_ne_empty _ (Entropy.length_piece ..) _
  rw [Cookie.isDeletion, keepSession, CookiePlan.session, CookiePlan.sessionCookie, ← settings]
  simp only [hvalue, Bool.false_eq_true, if_false]

/-! ### What a jar holds -/

/-- A value is the one of a session that the gate gives: it ends at a date in UTC, its strategy is
the one of the settings, and its user has an id. -/
def KeepsSession (gate : Gate) (value : String) : Prop :=
  ∃ session, Session.ofCookieValue gate.settings.key value = .ok session ∧
    (∃ wall, Timestamp.inRange wall ∧ session.expiresAt = .ofInstant wall) ∧
    session.strategy = gate.settings.idStrategy ∧ session.userId?.isSome

/-- A value is the one of a login attempt that the gate gives: it carries the hash of its
verifier. -/
def KeepsAttempt (gate : Gate) (value : String) : Prop :=
  ∃ attempt, LoginAttempt.ofCookieValue gate.settings.key value = .ok attempt ∧
    LoginAttempt.challenge? attempt.codeVerifier = some attempt.codeChallenge

/-- What a jar holds under the gate's two names is what the gate gives. -/
structure Furnished (gate : Gate) (jar : CookieJar) : Prop where
  session : ∀ value, NameMap.get? jar gate.settings.cookieName = some value →
    gate.KeepsSession value
  attempt : ∀ value, NameMap.get? jar gate.settings.stateCookieName = some value →
    gate.KeepsAttempt value

theorem furnished_nil (gate : Gate) : gate.Furnished [] := ⟨nofun, nofun⟩

/-- Where nobody is told to forget, what is told to be kept is what the gate gives. -/
theorem Tells.keeps {cookie : Cookie} (htells : gate.Tells record cookie)
    (hclock : Timestamp.inRange record.moment.now) (hkept : cookie.isDeletion = false) :
    (cookie.name = gate.settings.cookieName → gate.KeepsSession cookie.value) ∧
      (cookie.name = gate.settings.stateCookieName → gate.KeepsAttempt cookie.value) := by
  have hnames := gate.settings.stateCookieName_ne
  cases htells with
  | forgetSession => cases hkept
  | forgetAttempt => cases hkept
  | @keepSession session hsealed =>
    obtain ⟨token, hmade⟩ := madeOf_of_sealed hsealed
    exact ⟨fun _ => ⟨session, ofCookieValue_of_sealed hclock hsealed,
      ⟨_, hmade.inRange, hmade.expiresAt⟩, hmade.strategy, hmade.user⟩,
      fun hname => absurd hname.symm hnames⟩
  | @keepAttempt attempt hsealed =>
    obtain ⟨rfl, -⟩ := sealed_attempt hsealed
    exact ⟨fun hname => absurd hname hnames,
      fun _ => ⟨_, ofCookieValue_valueOf_attempt gate record _,
        LoginAttempt.challenge?_ofRandom _ _⟩⟩

/-- One cookie of a visit leaves a jar of the kind that it finds. -/
theorem Furnished.apply {jar : CookieJar} (hjar : gate.Furnished jar) {cookie : Cookie}
    (htells : gate.Tells record cookie) (hclock : Timestamp.inRange record.moment.now) :
    gate.Furnished (jar.apply cookie) := by
  -- Under either name stands what the cookie keeps, or what stood there before.
  have hold : ∀ (name value : String) (P : String → Prop),
      (cookie.isDeletion = false → cookie.name = name → P cookie.value) →
      (∀ value, NameMap.get? jar name = some value → P value) →
      NameMap.get? (jar.apply cookie) name = some value → P value := by
    intro name value P hnew hkept hvalue
    rw [CookieJar.get?_apply] at hvalue
    split at hvalue
    · rename_i hname
      cases hdeletion : cookie.isDeletion with
      | true => simp [hdeletion] at hvalue
      | false =>
        rw [hdeletion, if_neg Bool.false_ne_true] at hvalue
        rw [← Option.some.inj hvalue]
        exact hnew hdeletion hname.symm
    · exact hkept value hvalue
  exact ⟨fun value => hold _ value _ (fun hkept => (htells.keeps hclock hkept).1) hjar.session,
    fun value => hold _ value _ (fun hkept => (htells.keeps hclock hkept).2) hjar.attempt⟩

theorem Furnished.applyAll {jar : CookieJar} (hjar : gate.Furnished jar)
    (hclock : Timestamp.inRange record.moment.now) {cookies : List Cookie}
    (htells : ∀ cookie ∈ cookies, gate.Tells record cookie) :
    gate.Furnished (jar.applyAll cookies) := by
  induction cookies generalizing jar with
  | nil => exact hjar
  | cons cookie cookies ih =>
    exact ih (hjar.apply (htells cookie List.mem_cons_self) hclock)
      fun other hmem => htells other (List.mem_cons_of_mem _ hmem)

/-- A visit leaves a jar of the kind that it has brought. -/
theorem Furnished.jarAfter (hjar : gate.Furnished record.visit.cookies)
    (hclock : Timestamp.inRange record.moment.now) : gate.Furnished (gate.jarAfter record) := by
  rw [Gate.jarAfter]
  cases hresult : (gate.outcome record).result with
  | error breakdown => exact hjar
  | ok decision => exact hjar.applyAll hclock fun cookie hmem => tells_of_mem_cookies hresult hmem

/-! ### Visits that go smoothly -/

/-- The session that is forwarded in a visit, if one is. -/
def forwarded? (gate : Gate) (record : Record) : Option Session :=
  match gate.course record.moment.now record.visit with
  | .forward session _ => some session
  | .renew session =>
    match (gate.obtained record (.refresh (session.refreshToken.getD ""))
        session.refreshToken).result with
    | .ok renewed => some renewed
    | .error (.fault _) => some session
    | .error (.breakdown _) => none
  | .pass | .exchange .. | .login _ | .deny .. | .stuck _ => none

/-- A visit is not refused what it brings. -/
structure Smooth (gate : Gate) (record : Record) : Prop where
  /-- The session cookie is read. -/
  readable : ∀ value, record.visit.cookie? gate.settings.cookieName = some value →
    ∃ session, Session.ofCookieValue gate.settings.key value = .ok session
  /-- It is known whether the lifetime of the session is over. -/
  zoned : ∀ session, gate.Resumes record.visit session →
    (session.isExpired? record.moment.now).isSome
  /-- The session that is forwarded is somebody's. -/
  user : ∀ session, gate.forwarded? record = some session → session.userId?.isSome
  /-- The visit is not denied for a cookie with a login attempt that cannot be read. -/
  attempt : ∀ name fault cookies,
    gate.course record.moment.now record.visit ≠ .deny (.attempt name fault) cookies

/-- A session that a visit brings in a jar of the gate's is one that the gate gives. -/
theorem Furnished.resumed (hjar : gate.Furnished record.visit.cookies) {session : Session}
    (hresumes : gate.Resumes record.visit session) :
    session.expiresAt.offset = some 0 ∧ session.userId?.isSome := by
  obtain ⟨-, value, hcookie, hsession⟩ := hresumes
  obtain ⟨found, hfound, ⟨wall, -, hutc⟩, -, huser⟩ :=
    hjar.session value (Visit.get?_of_cookie? hcookie)
  rw [hsession] at hfound
  cases hfound
  exact ⟨by rw [hutc]; rfl, huser⟩

theorem forwarded?_eq_some {session : Session} (h : gate.forwarded? record = some session) :
    gate.Resumes record.visit session ∨ session.userId?.isSome := by
  have hexplains := gate.explains_course record.moment.now record.visit
  rw [forwarded?] at h
  cases hcourse : gate.course record.moment.now record.visit with
  | forward kept cookies =>
    rw [hcourse] at h hexplains
    cases h
    exact .inl hexplains.1
  | renew kept =>
    simp only [hcourse] at h
    rw [hcourse] at hexplains
    split at h
    · rename_i renewed hresult
      cases h
      obtain ⟨token, hmade⟩ := madeOf_of_obtain hresult
      exact .inr hmade.user
    · cases h
      exact .inl hexplains.1
    · cases h
  | _ => simp [hcourse] at h

/-- A login is denied for the login attempt only if a callback completes none. -/
theorem completedAttempt_of_courseOfLogin {visit : Visit} {name : String} {fault : CookieFault}
    {cookies cookies' : List Cookie}
    (h : gate.courseOfLogin visit cookies = .deny (.attempt name fault) cookies') :
    gate.completedAttempt visit = .error (.attempt name fault) := by
  rw [courseOfLogin] at h
  split at h
  · cases h
  · split at h
    · rw [courseOfCallback] at h
      split at h
      · split at h
        · cases h
        · rename_i failed hfailed
          cases h
          exact hfailed
      · cases h
    · cases h

theorem completedAttempt_of_course {now : Instant} {visit : Visit} {name : String}
    {fault : CookieFault} {cookies : List Cookie}
    (h : gate.course now visit = .deny (.attempt name fault) cookies) :
    gate.completedAttempt visit = .error (.attempt name fault) := by
  rw [course] at h
  split at h
  · cases h
  · split at h
    · exact completedAttempt_of_courseOfLogin h
    · split at h
      · rw [courseOfSession] at h
        split at h
        · cases h
        · cases h
        · split at h <;> cases h
      · exact completedAttempt_of_courseOfLogin h

/-- A login attempt that cannot be read stands in the state cookie. -/
theorem completedAttempt_eq_unreadable {visit : Visit} {name : String} {fault : CookieFault}
    (h : gate.completedAttempt visit = .error (.attempt name fault)) :
    ∃ value, visit.cookie? gate.settings.stateCookieName = some value ∧
      LoginAttempt.ofCookieValue gate.settings.key value = .error fault := by
  simp only [completedAttempt] at h
  split at h
  · cases h
  · rename_i value hvalue
    split at h
    · rename_i found hfound
      cases h
      exact ⟨value, hvalue, hfound⟩
    · split at h <;> cases h

/-- A visit goes smoothly if its jar is of the gate's kind. -/
theorem Furnished.smooth (hjar : gate.Furnished record.visit.cookies) : gate.Smooth record where
  readable := by
    intro value hcookie
    obtain ⟨session, hsession, -⟩ := hjar.session value (Visit.get?_of_cookie? hcookie)
    exact ⟨session, hsession⟩
  zoned := by
    intro session hresumes
    obtain ⟨hzone, -⟩ := hjar.resumed hresumes
    simp [Session.isExpired?, Timestamp.instant?, hzone]
  user := by
    intro session hforwarded
    rcases forwarded?_eq_some hforwarded with hresumes | huser
    · exact (hjar.resumed hresumes).2
    · exact huser
  attempt := by
    intro name fault cookies hcourse
    obtain ⟨value, hcookie, hfault⟩ :=
      completedAttempt_eq_unreadable (completedAttempt_of_course hcourse)
    obtain ⟨attempt, hattempt, -⟩ := hjar.attempt value (Visit.get?_of_cookie? hcookie)
    cases hfault.symm.trans hattempt

/-! ### A browser -/

theorem Furnished.browse {jar : CookieJar} (hjar : gate.Furnished jar) (memory : GateMemory)
    {clicks : List Click} (hclock : ∀ click ∈ clicks, Timestamp.inRange click.moment.now) :
    ∀ record ∈ gate.browse memory jar clicks, gate.Furnished record.visit.cookies ∧
      gate.Furnished (gate.jarAfter record) ∧ gate.Smooth record := by
  induction clicks generalizing memory jar with
  | nil => exact nofun
  | cons click clicks ih =>
    have hafter : gate.Furnished
        (gate.jarAfter ⟨memory, click.moment, ⟨click.path, click.query, jar⟩⟩) :=
      Furnished.jarAfter hjar (hclock click List.mem_cons_self)
    intro record hrecord
    rcases List.mem_cons.mp hrecord with rfl | hrecord
    · exact ⟨hjar, hafter, Furnished.smooth hjar⟩
    · exact ih hafter _ (fun other hmem => hclock other (List.mem_cons_of_mem _ hmem)) record
        hrecord

/-- A browser that is led back with a code, and comes again a microsecond later. -/
def sampleClicks : List Click :=
  [⟨sampleCallback.moment, sampleCallback.visit.path, sampleCallback.visit.query⟩,
    ⟨sampleReturn.moment, sampleReturn.visit.path, sampleReturn.visit.query⟩]

theorem jarAfter_sampleCallback :
    (sampleGate false).jarAfter sampleCallback = sampleReturn.visit.cookies := by
  have hkept : ((sampleGate false).keepSession sampleCallback.memory.draws
      sampleSession).isDeletion = false :=
    isDeletion_keepSession (sampleGate false) _ sampleSession
  rw [Gate.jarAfter, result_sampleCallback]
  simp only [Decision.cookies]
  rw [CookieJar.applyAll, List.foldl_cons, List.foldl_nil, CookieJar.apply, hkept,
    if_neg Bool.false_ne_true]
  rfl

theorem browse_sampleClicks :
    (sampleGate false).browse {} [] sampleClicks = [sampleCallback, sampleReturn] := by
  rw [sampleClicks, browse, browse, browse]
  have hfirst : (⟨{}, sampleCallback.moment,
      ⟨sampleCallback.visit.path, sampleCallback.visit.query, []⟩⟩ : Record) = sampleCallback := rfl
  simp only [hfirst, jarAfter_sampleCallback]
  rfl

/-- Whatever a browser asks for, and whatever the provider answers, its jar holds nothing but
readable sessions of somebody that end at a date in UTC, and readable login attempts that carry the
hash of their verifiers, and no visit is refused what it brings. Clocks show dates. -/
theorem browse_smooth (gate : Gate) (memory : GateMemory) {clicks : List Click}
    (hclock : ∀ click ∈ clicks, Timestamp.inRange click.moment.now) :
    ∀ record ∈ gate.browse memory [] clicks, gate.Furnished record.visit.cookies ∧
      gate.Furnished (gate.jarAfter record) ∧ gate.Smooth record :=
  gate.furnished_nil.browse memory hclock

/-- The session that a login leaves in the jar is brought in the visit after it. -/
theorem browse_smooth_after_login :
    (∀ click ∈ sampleClicks, Timestamp.inRange click.moment.now) ∧
      (sampleGate false).browse {} [] sampleClicks = [sampleCallback, sampleReturn] ∧
      sampleReturn.visit.cookie? (sampleGate false).settings.cookieName =
        some ((sampleGate false).valueOf sampleCallback (.session sampleSession)) ∧
      ∀ record ∈ [sampleCallback, sampleReturn],
        (sampleGate false).Furnished record.visit.cookies ∧
          (sampleGate false).Furnished ((sampleGate false).jarAfter record) ∧
          (sampleGate false).Smooth record := by
  have hclock : ∀ click ∈ sampleClicks, Timestamp.inRange click.moment.now := by
    simp only [sampleClicks, List.forall_mem_cons]
    exact ⟨by decide, by decide, nofun⟩
  refine ⟨hclock, browse_sampleClicks, cookie?_sampleReturn, ?_⟩
  rw [← browse_sampleClicks]
  exact browse_smooth (sampleGate false) {} hclock

end Gate

end LoginGate
