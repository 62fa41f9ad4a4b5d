import LoginGate.Gate.Step
import LoginGate.Proofs.Gate.Grant

/-!
# What a course tells

A visit whose path is not open to everybody goes by its session if it has one, and by a login if it
has none. What a course tells of its visit is said here once, and so are the decisions and the
requests that courses come to.

## Main definitions

* `Course.grant?`, `Course.previous?` : what the token endpoint is asked for, and the refresh token
  that is kept if it grants no new one.
* `Course.cookies` : the cookies that a course brings along.
* `Gate.Resumes`, `Gate.Begins` : a visit with a session, and one without.
* `Gate.Explains` : what a course tells of its visit.
* `Gate.staleCookies`, `Gate.refusedCookies`, `Gate.finishCookies` : what makes the browser forget
  sessions that are over, sessions that are refused, and login attempts.

## Main results

* `Gate.explains_course` : every course is explained by its visit.
* `Gate.course_of_resumes`, `Gate.course_of_begins` : the course of a visit with a session, and of
  one without.
* `Gate.cookies_courseOfLogin` : the cookies that it brings along without a session.
* `Gate.result_leadToProvider_cases`, `Gate.result_forward_cases` : what it comes to.
* `Gate.requests_step` : the requests of a visit.
-/

namespace LoginGate

/-- What the token endpoint is asked for, if it is asked. -/
def Course.grant? : Course → Option Grant
  | .renew session => some (.refresh (session.refreshToken.getD ""))
  | .exchange code verifier _ => some (.code code verifier)
  | .pass | .forward .. | .login _ | .deny .. | .stuck _ => none

/-- The refresh token of the session at hand, if it is to be renewed. -/
def Course.previous? : Course → Option String
  | .renew session => session.refreshToken
  | _ => none

/-- The cookies that a course brings along. -/
def Course.cookies : Course → List Cookie
  | .forward _ cookies | .exchange _ _ cookies | .login cookies | .deny _ cookies => cookies
  | .pass | .renew _ | .stuck _ => []

/-- A grant is asked for to renew a session or to exchange a code. -/
theorem Course.grant?_eq_some {course : Course} {grant : Grant} (h : course.grant? = some grant) :
    (∃ session, course = .renew session ∧
      grant = .refresh (session.refreshToken.getD "")) ∨
      ∃ code verifier cookies, course = .exchange code verifier cookies ∧
        grant = .code code verifier := by
  cases course with
  | renew session => exact .inl ⟨session, rfl, (Option.some.inj h).symm⟩
  | exchange code verifier cookies => exact .inr ⟨_, _, cookies, rfl, (Option.some.inj h).symm⟩
  | _ => cases h

namespace Gate

/-! ### Courses -/

/-- Whether a visit comes without a session: there is no session cookie, or it is refused. -/
def lacksSession (gate : Gate) (visit : Visit) : Bool :=
  match visit.cookie? gate.settings.cookieName with
  | none => true
  | some value => !(Session.ofCookieValue gate.settings.key value).isOk

/-- A visit comes with a session: the path is not open to everybody, and the session stands in the
session cookie. -/
def Resumes (gate : Gate) (visit : Visit) (session : Session) : Prop :=
  gate.settings.isBypassed visit.path = false ∧
    ∃ value, visit.cookie? gate.settings.cookieName = some value ∧
      Session.ofCookieValue gate.settings.key value = .ok session

/-- A visit comes without a session to a path that is not open to everybody. -/
def Begins (gate : Gate) (visit : Visit) : Prop :=
  gate.settings.isBypassed visit.path = false ∧ gate.lacksSession visit

/-- What a course tells of the visit in which it is taken. -/
def Explains (gate : Gate) (visit : Visit) : Course → Prop
  | .pass => gate.settings.isBypassed visit.path
  | .forward session _ | .renew session =>
    gate.Resumes visit session ∧ session.expiresAt.offset.isSome
  | .stuck breakdown =>
    breakdown = .zonelessExpiry ∧
      ∃ session, gate.Resumes visit session ∧ session.expiresAt.offset = none
  | .login _ | .deny _ _ => gate.Begins visit
  | .exchange code verifier _ =>
    gate.Begins visit ∧ visit.parameter? "error" = none ∧ visit.parameter? "code" = some code ∧
      (gate.usePkce → ∃ attempt, gate.completedAttempt visit = .ok attempt ∧
        verifier = some attempt.codeVerifier)

theorem explains_courseOfLogin {gate : Gate} {visit : Visit} (hbegins : gate.Begins visit)
    (cookies : List Cookie) : gate.Explains visit (gate.courseOfLogin visit cookies) := by
  rw [courseOfLogin]
  split
  · exact hbegins
  · rename_i herror
    split
    · rename_i code hcode
      rw [courseOfCallback]
      split
      · split
        · rename_i attempt hattempt
          exact ⟨hbegins, herror, hcode, fun _ => ⟨attempt, hattempt, rfl⟩⟩
        · exact hbegins
      · rename_i hpkce
        exact ⟨hbegins, herror, hcode, fun h => absurd h hpkce⟩
    · exact hbegins

theorem explains_courseOfSession {gate : Gate} {visit : Visit} {session : Session}
    (hresumes : gate.Resumes visit session) (now : Instant) :
    gate.Explains visit (gate.courseOfSession now session) := by
  rw [courseOfSession, Session.isExpired?, Timestamp.instant?]
  cases hzone : session.expiresAt.offset with
  | none => exact ⟨rfl, session, hresumes, hzone⟩
  | some offset =>
    have hresumes : gate.Resumes visit session ∧ session.expiresAt.offset.isSome :=
      ⟨hresumes, Option.isSome_of_eq_some hzone⟩
    simp only [Option.map_some]
    split
    · rename_i h
      cases h
    · exact hresumes
    · split <;> exact hresumes

/-- Every course is explained by its visit. -/
theorem explains_course (gate : Gate) (now : Instant) (visit : Visit) :
    gate.Explains visit (gate.course now visit) := by
  rw [course]
  cases hbypass : gate.settings.isBypassed visit.path with
  | true => exact hbypass
  | false =>
    cases hcookie : visit.cookie? gate.settings.cookieName with
    | none => exact explains_courseOfLogin ⟨hbypass, by simp [lacksSession, hcookie]⟩ _
    | some value =>
      simp only [Bool.false_eq_true, if_false]
      cases hsession : Session.ofCookieValue gate.settings.key value with
      | ok session => exact explains_courseOfSession ⟨hbypass, value, hcookie, hsession⟩ now
      | error fault =>
        refine explains_courseOfLogin ⟨hbypass, ?_⟩ _
        rw [lacksSession, hcookie]
        simp [hsession, Except.isOk, Except.toBool]

/-- What is to be done in a visit with a session follows from the session. -/
theorem course_of_resumes {gate : Gate} {visit : Visit} {session : Session}
    (h : gate.Resumes visit session) (now : Instant) :
    gate.course now visit = gate.courseOfSession now session := by
  obtain ⟨hclosed, value, hcookie, hsession⟩ := h
  rw [course, hclosed, if_neg Bool.false_ne_true, hcookie]
  simp only [hsession]

/-! ### Courses with a session -/

/-- The cookies of a session that is forwarded as it is: if its lifetime is over, it is to be
forgotten. -/
def staleCookies (gate : Gate) (now : Instant) (session : Session) : List Cookie :=
  if session.isExpired? now = some true then [gate.plan.clearSession] else []

theorem staleCookies_eq (gate : Gate) (now : Instant) (session : Session) :
    (∀ cookie ∈ gate.staleCookies now session, cookie = gate.plan.clearSession) ∧
      (gate.staleCookies now session ≠ [] ↔ session.isExpired? now = some true) := by
  rw [staleCookies]
  split <;> simp_all

theorem courseOfSession_eq_forward {gate : Gate} {now : Instant} {session found : Session}
    {cookies : List Cookie} (h : gate.courseOfSession now session = .forward found cookies) :
    found = session ∧ cookies = gate.staleCookies now session := by
  rw [courseOfSession] at h
  rw [staleCookies]
  split at h
  · cases h
  · rename_i hfresh
    cases h
    exact ⟨rfl, by rw [hfresh]; rfl⟩
  · rename_i hexpired
    split at h
    · cases h
    · cases h
      exact ⟨rfl, by rw [if_pos hexpired]⟩

theorem courseOfSession_eq_renew_iff {gate : Gate} {now : Instant} {session found : Session} :
    gate.courseOfSession now session = .renew found ↔
      found = session ∧ session.isExpired? now = some true ∧ session.hasRefreshToken := by
  rw [courseOfSession]
  cases session.isExpired? now with
  | none => simp
  | some expired =>
    cases expired with
    | false => simp
    | true => cases session.hasRefreshToken <;> simp [eq_comm]

/-! ### Courses without a session -/

/-- Whether the provider leads a user back who has no session, with a code. -/
def isCallback (gate : Gate) (visit : Visit) : Bool :=
  gate.lacksSession visit && (visit.parameter? "error").isNone && (visit.parameter? "code").isSome

/-- The cookies that end a login attempt, if a visit handles a code. -/
def finishCookies (gate : Gate) (visit : Visit) : List Cookie :=
  if gate.isCallback visit then gate.callbackCookies visit else []

theorem finishCookies_eq (gate : Gate) (visit : Visit) :
    (∀ cookie ∈ gate.finishCookies visit, cookie = gate.plan.clearState) ∧
      (gate.finishCookies visit ≠ [] ↔ gate.isCallback visit ∧
        (gate.usePkce ∨ (visit.cookie? gate.settings.stateCookieName).isSome)) := by
  rw [finishCookies, callbackCookies]
  split
  · split <;> simp_all
  · simp_all

/-- A visit without a session ends the login attempt whose code it brings. -/
theorem cookies_courseOfLogin {gate : Gate} {visit : Visit} (hlacks : gate.lacksSession visit)
    (cookies : List Cookie) :
    (gate.courseOfLogin visit cookies).cookies = cookies ++ gate.finishCookies visit := by
  rw [courseOfLogin, finishCookies, isCallback, hlacks]
  cases visit.parameter? "error" with
  | some error => exact (List.append_nil _).symm
  | none =>
    cases visit.parameter? "code" with
    | none => exact (List.append_nil _).symm
    | some code =>
      simp only [courseOfCallback]
      split
      · split <;> rfl
      · rfl

theorem lacksSession_of_resumes {gate : Gate} {visit : Visit} {session : Session}
    (h : gate.Resumes visit session) : gate.lacksSession visit = false := by
  obtain ⟨-, value, hcookie, hsession⟩ := h
  rw [lacksSession, hcookie]
  simp [hsession, Except.isOk, Except.toBool]

theorem finishCookies_of_resumes {gate : Gate} {visit : Visit} {session : Session}
    (h : gate.Resumes visit session) : gate.finishCookies visit = [] := by
  rw [finishCookies, isCallback, lacksSession_of_resumes h]
  rfl

/-- The cookies of a visit without a session: the session that is refused is to be forgotten. -/
def refusedCookies (gate : Gate) (visit : Visit) : List Cookie :=
  if (visit.cookie? gate.settings.cookieName).isSome then [gate.plan.clearSession] else []

theorem refusedCookies_eq (gate : Gate) (visit : Visit) :
    (∀ cookie ∈ gate.refusedCookies visit, cookie = gate.plan.clearSession) ∧
      (gate.refusedCookies visit ≠ [] ↔
        (visit.cookie? gate.settings.cookieName).isSome) := by
  rw [refusedCookies]
  split <;> simp_all

/-- What is to be done in a visit without a session follows from what it asks for. -/
theorem course_of_begins {gate : Gate} {visit : Visit} (h : gate.Begins visit) (now : Instant) :
    gate.course now visit = gate.courseOfLogin visit (gate.refusedCookies visit) := by
  obtain ⟨hclosed, hlacks⟩ := h
  rw [course, hclosed, if_neg Bool.false_ne_true, refusedCookies]
  rw [lacksSession] at hlacks
  cases hcookie : visit.cookie? gate.settings.cookieName with
  | none => rfl
  | some value =>
    rw [hcookie] at hlacks
    simp only at hlacks ⊢
    cases hsession : Session.ofCookieValue gate.settings.key value with
    | error fault => rfl
    | ok session =>
      rw [hsession] at hlacks
      cases hlacks

/-- A visit without a session makes the browser forget one that is refused, and end a login attempt
whose code it brings, in this order. -/
theorem cookies_of_begins {gate : Gate} {visit : Visit} (h : gate.Begins visit) {now : Instant}
    {cookies : List Cookie} (hcookies : (gate.course now visit).cookies = cookies) :
    cookies = gate.refusedCookies visit ++ gate.finishCookies visit := by
  rw [← hcookies, course_of_begins h]
  exact cookies_courseOfLogin h.2 _

theorem isCallback_of_course_eq_login {gate : Gate} {visit : Visit} (h : gate.Begins visit)
    {now : Instant} {cookies : List Cookie} (hcourse : gate.course now visit = .login cookies) :
    gate.isCallback visit = false := by
  rw [course_of_begins h, courseOfLogin] at hcourse
  rw [isCallback]
  split at hcourse
  · cases hcourse
  · split at hcourse
    · rw [courseOfCallback] at hcourse
      split at hcourse
      · split at hcourse <;> cases hcourse
      · cases hcourse
    · rename_i hcode
      simp [hcode]

/-! ### Decisions -/

theorem result_leadToProvider_cases (gate : Gate) (memory : GateMemory) (cookies : List Cookie) :
    ∃ location cookies',
      (gate.leadToProvider memory cookies).result = .ok (.redirect location cookies' false) := by
  rw [leadToProvider]
  split <;> exact ⟨_, _, rfl⟩

/-- A session of nobody leads to the provider. Another one is forwarded, if groups can be kept. -/
theorem result_forward_cases (gate : Gate) (now : Instant) (memory : GateMemory)
    (session : Session) (cookies : List Cookie) :
    (∃ location cookies', (gate.forward now memory session cookies).result =
        .ok (.redirect location cookies' false)) ∨
      ∃ userId, session.userId? = some userId ∧
        (gate.forward now memory session cookies).result =
          if memory.groups.canRecord then
            .ok (.forward userId session.identity session.identity.groupsAndRoles cookies)
          else .error .emptyCache := by
  rw [Gate.forward]
  cases session.userId? with
  | none => exact .inl (gate.result_leadToProvider_cases memory _)
  | some userId => exact .inr ⟨userId, rfl, rfl⟩

/-! ### Requests -/

/-- Who is led to the provider is led there without asking it. -/
theorem leadToProvider_asks_nobody (gate : Gate) (memory : GateMemory) (cookies : List Cookie) :
    (gate.leadToProvider memory cookies).requests = [] ∧
      (gate.leadToProvider memory cookies).fetches = 0 := by
  rw [leadToProvider]
  split <;> exact ⟨rfl, rfl⟩

/-- A session that is forwarded is forwarded without asking the provider. -/
theorem forward_asks_nobody (gate : Gate) (now : Instant) (memory : GateMemory)
    (session : Session) (cookies : List Cookie) :
    (gate.forward now memory session cookies).requests = [] ∧
      (gate.forward now memory session cookies).fetches = 0 := by
  rw [Gate.forward]
  split
  · exact gate.leadToProvider_asks_nobody memory _
  · exact ⟨rfl, rfl⟩

/-- A visit sends the request that its course asks the token endpoint with, and no other. -/
theorem requests_step (gate : Gate) (memory : GateMemory) (moment : Moment) (visit : Visit) :
    (gate.step memory moment visit).requests =
      ((gate.course moment.now visit).grant?.bind gate.tokenEndpoint.request?).toList := by
  rw [step]
  cases gate.course moment.now visit with
  | pass => rfl
  | forward session cookies => exact (gate.forward_asks_nobody _ memory session cookies).1
  | renew session => exact obtain_requests ..
  | exchange code verifier cookies => exact obtain_requests ..
  | login cookies => exact (gate.leadToProvider_asks_nobody memory cookies).1
  | deny fault cookies => rfl
  | stuck breakdown => rfl

end Gate

end LoginGate
