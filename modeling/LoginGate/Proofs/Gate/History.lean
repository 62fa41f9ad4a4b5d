import LoginGate.Proofs.Cookie.Cipher
import LoginGate.Proofs.Gate.Course
import LoginGate.Proofs.Session.RoundTrip

/-!
# The history of a gate

A history lists the visits to a gate, each with what the gate remembered when it came. In a visit at
most one thing is encrypted: a session that the token endpoint has just granted, or the login
attempt of a user who is led to the provider.

## Main definitions

* `Record`, `Gate.history` : a visit in its place, and all visits.
* `Gate.sealed?` : what is encrypted in a visit.
* `Gate.Encrypts` : the pair of initialisation vector and ciphertext that comes from it.
* `Gate.drawsFor` : what has been drawn after a visit.

## Main results

* `Gate.map_outcome_history` : the outcomes along a history are those of a run.
* `Gate.draws_outcome` : what is drawn in a visit is drawn for what is encrypted.
* `Gate.sealed_session`, `Gate.sealed_attempt` : what a visit does in which something is encrypted.
* `Gate.madeOf_of_sealed` : what an encrypted session is made of.
-/

namespace LoginGate

/-- A visit with what the gate remembers when it comes. -/
structure Record where
  memory : GateMemory
  moment : Moment
  visit : Visit

/-- What the gate encrypts. -/
inductive Sealed where
  | session (session : Session)
  | attempt (attempt : LoginAttempt)

/-- The bytes that are encrypted. -/
def Sealed.content : Sealed → Bytes
  | .session s => Packing.pack (Utf8.encode s.text)
  | .attempt a => Utf8.encode a.text

namespace Gate

variable {gate : Gate} {record : Record}

/-- The visits to a gate, each with what the gate remembers when it comes. -/
def history (gate : Gate) (memory : GateMemory) : List (Moment × Visit) → List Record
  | [] => []
  | (moment, visit) :: visits =>
    ⟨memory, moment, visit⟩ :: gate.history (gate.step memory moment visit).memory visits

/-- What comes of a visit in its place. -/
def outcome (gate : Gate) (record : Record) : Outcome :=
  gate.step record.memory record.moment record.visit

/-- The outcomes along a history are those of a run. -/
theorem map_outcome_history (gate : Gate) (memory : GateMemory) (visits : List (Moment × Visit)) :
    (gate.history memory visits).map gate.outcome = gate.run memory visits := by
  induction visits generalizing memory with
  | nil => rfl
  | cons visit visits ih =>
    obtain ⟨moment, visit⟩ := visit
    rw [history, List.map_cons, ih]
    rfl

/-- In a visit with a session whose lifetime is not over, the session is forwarded. -/
theorem outcome_of_fresh_session {session : Session}
    (hresumes : gate.Resumes record.visit session)
    (hfresh : session.isExpired? record.moment.now = some false) :
    gate.outcome record = gate.forward record.moment.now record.memory session [] := by
  rw [outcome, step, course_of_resumes hresumes, courseOfSession, hfresh]
  rfl

/-! ### What is encrypted -/

/-- What comes of asking for a session in a visit. -/
def obtained (gate : Gate) (record : Record) (grant : Grant) (previous : Option String) :
    Obtained :=
  gate.obtain record.moment record.memory.keys grant previous

/-- What is encrypted when a user is led to the provider. -/
def sealedByLogin? (gate : Gate) (draws : Draws) : Option Sealed :=
  if gate.usePkce then some (.attempt (gate.nextAttempt draws)) else none

/-- What is encrypted when a session is forwarded: nothing, unless it is nobody's. -/
def sealedByForward? (gate : Gate) (draws : Draws) (session : Session) : Option Sealed :=
  if session.userId?.isSome then none else gate.sealedByLogin? draws

/-- What is encrypted in a visit. -/
def sealed? (gate : Gate) (record : Record) : Option Sealed :=
  match gate.course record.moment.now record.visit with
  | .forward session _ => gate.sealedByForward? record.memory.draws session
  | .renew session =>
    match (gate.obtained record (.refresh (session.refreshToken.getD ""))
        session.refreshToken).result with
    | .ok renewed => some (.session renewed)
    | .error (.fault _) => gate.sealedByForward? record.memory.draws session
    | .error (.breakdown _) => none
  | .exchange code verifier _ =>
    match (gate.obtained record (.code code verifier) none).result with
    | .ok session => some (.session session)
    | .error _ => none
  | .login _ => gate.sealedByLogin? record.memory.draws
  | .pass | .deny _ _ | .stuck _ => none

/-- The initialisation vector that is next in a visit. -/
def iv (gate : Gate) (record : Record) : Bytes := gate.entropy.iv record.memory.draws.ivs

theorem length_iv (gate : Gate) (record : Record) :
    (gate.iv record).length = CookieCipher.ivBytes :=
  Entropy.length_piece ..

/-- Whether a pair of initialisation vector and ciphertext comes from a visit. -/
def Encrypts (gate : Gate) (record : Record) (iv data : Bytes) : Prop :=
  ∃ content, gate.sealed? record = some content ∧ iv = gate.iv record ∧
    data = Gcm.encrypt gate.settings.key.roundKeys iv content.content

/-- The cookie value of something sealed in a visit. -/
def valueOf (gate : Gate) (record : Record) (content : Sealed) : String :=
  CookieCipher.encrypt gate.settings.key (gate.iv record) content.content

theorem valueOf_session (gate : Gate) (record : Record) (session : Session) :
    gate.valueOf record (.session session) =
      session.toCookieValue gate.settings.key (gate.iv record) := rfl

theorem valueOf_attempt (gate : Gate) (record : Record) (attempt : LoginAttempt) :
    gate.valueOf record (.attempt attempt) =
      attempt.toCookieValue gate.settings.key (gate.iv record) := rfl

theorem sealedByForward?_eq {draws : Draws} {session : Session} {content : Sealed}
    (h : gate.sealedByForward? draws session = some content) :
    session.userId? = none ∧ gate.sealedByLogin? draws = some content := by
  rw [sealedByForward?] at h
  split at h
  · cases h
  · rename_i huser
    exact ⟨by simpa using huser, h⟩

theorem sealedByLogin?_eq {draws : Draws} {content : Sealed}
    (h : gate.sealedByLogin? draws = some content) :
    gate.usePkce ∧ content = .attempt (gate.nextAttempt draws) := by
  rw [sealedByLogin?] at h
  split at h
  · rename_i hpkce
    exact ⟨hpkce, (Option.some.inj h).symm⟩
  · cases h

/-- A session is encrypted in a visit in which the token endpoint was asked and granted it. -/
theorem sealed_session {session : Session} (h : gate.sealed? record = some (.session session)) :
    ∃ grant, (gate.course record.moment.now record.visit).grant? = some grant ∧
      (gate.obtained record grant
        (gate.course record.moment.now record.visit).previous?).result = .ok session := by
  obtain ⟨memory, moment, visit⟩ := record
  simp only [sealed?] at h ⊢
  have hlogin : gate.sealedByLogin? memory.draws ≠ some (.session session) := by
    intro hsealed
    cases (sealedByLogin?_eq hsealed).2
  cases hcourse : gate.course moment.now visit with
  | pass => simp [hcourse] at h
  | forward kept cookies =>
    simp only [hcourse] at h
    exact absurd (sealedByForward?_eq h).2 hlogin
  | renew kept =>
    simp only [hcourse] at h
    split at h
    · rename_i renewed hresult
      cases h
      exact ⟨_, rfl, hresult⟩
    · exact absurd (sealedByForward?_eq h).2 hlogin
    · cases h
  | exchange code verifier cookies =>
    simp only [hcourse] at h
    split at h
    · rename_i found hresult
      cases h
      exact ⟨_, rfl, hresult⟩
    · cases h
  | login cookies =>
    simp only [hcourse] at h
    exact absurd h hlogin
  | deny fault cookies => simp [hcourse] at h
  | stuck breakdown => simp [hcourse] at h

/-- The session that the token endpoint grants in a visit is encrypted. -/
theorem sealed_of_obtained {grant : Grant} {session : Session}
    (hgrant : (gate.course record.moment.now record.visit).grant? = some grant)
    (h : (gate.obtained record grant
      (gate.course record.moment.now record.visit).previous?).result = .ok session) :
    gate.sealed? record = some (.session session) := by
  rcases Course.grant?_eq_some hgrant with
    ⟨kept, hcourse, rfl⟩ | ⟨code, verifier, cookies, hcourse, rfl⟩
  · rw [hcourse, Course.previous?] at h
    simp only [sealed?, hcourse, h]
  · rw [hcourse, Course.previous?] at h
    · simp only [sealed?, hcourse, h]
    · exact nofun

/-- A session that is encrypted in a visit is made of a token that is granted in it. -/
theorem madeOf_of_sealed {session : Session} (h : gate.sealed? record = some (.session session)) :
    ∃ token, gate.MadeOf record.moment record.memory.keys
      (gate.course record.moment.now record.visit).previous? token session := by
  obtain ⟨grant, -, hresult⟩ := sealed_session h
  exact madeOf_of_obtain hresult

/-- Leads to the provider with an attempt. -/
theorem result_leadToProvider {memory : GateMemory} {attempt : LoginAttempt}
    (h : gate.sealedByLogin? memory.draws = some (.attempt attempt)) (cookies : List Cookie) :
    ∃ cookies', (gate.leadToProvider memory cookies).result =
      .ok (.redirect (gate.authorizationUrl (attemptParameters attempt)) cookies' false) := by
  obtain ⟨hpkce, hattempt⟩ := sealedByLogin?_eq h
  cases hattempt
  rw [leadToProvider, if_pos hpkce]
  exact ⟨_, rfl⟩

theorem result_forward {now : Instant} (memory : GateMemory) {session : Session}
    {attempt : LoginAttempt}
    (h : gate.sealedByForward? memory.draws session = some (.attempt attempt))
    (cookies : List Cookie) :
    ∃ cookies', (gate.forward now memory session cookies).result =
      .ok (.redirect (gate.authorizationUrl (attemptParameters attempt)) cookies' false) := by
  obtain ⟨huser, hsealed⟩ := sealedByForward?_eq h
  rw [Gate.forward, huser]
  exact result_leadToProvider hsealed _

/-- A login attempt is encrypted in a visit that leads the user to the provider with it. -/
theorem sealed_attempt {attempt : LoginAttempt}
    (h : gate.sealed? record = some (.attempt attempt)) :
    attempt = gate.nextAttempt record.memory.draws ∧
      ∃ cookies, (gate.outcome record).result =
        .ok (.redirect (gate.authorizationUrl (attemptParameters attempt)) cookies false) := by
  obtain ⟨memory, moment, visit⟩ := record
  have hnext : gate.sealedByLogin? memory.draws = some (.attempt attempt) →
      attempt = gate.nextAttempt memory.draws := by
    intro hsealed
    cases (sealedByLogin?_eq hsealed).2
    rfl
  simp only [outcome, step, sealed?] at h ⊢
  cases hcourse : gate.course moment.now visit with
  | pass => simp [hcourse] at h
  | forward kept cookies =>
    simp only [hcourse] at h
    exact ⟨hnext (sealedByForward?_eq h).2, result_forward memory h cookies⟩
  | renew kept =>
    simp only [hcourse] at h
    split at h
    · cases h
    · rename_i hresult
      refine ⟨hnext (sealedByForward?_eq h).2, ?_⟩
      simp only [obtained] at hresult
      simp only [follow, renew, hresult]
      refine result_forward _ ?_ _
      exact h
    · cases h
  | exchange code verifier cookies =>
    simp only [hcourse] at h
    split at h <;> cases h
  | login cookies =>
    simp only [hcourse] at h
    exact ⟨hnext h, result_leadToProvider h cookies⟩
  | deny fault cookies => simp [hcourse] at h
  | stuck breakdown => simp [hcourse] at h

/-! ### What is drawn -/

/-- The draws after those for what is encrypted in a visit, if anything is. -/
def drawsFor (draws : Draws) : Option Sealed → Draws
  | none => draws
  | some (.session _) => afterSession draws
  | some (.attempt _) => afterAttempt draws

theorem draws_leadToProvider (gate : Gate) (memory : GateMemory) (cookies : List Cookie) :
    (gate.leadToProvider memory cookies).memory.draws =
      drawsFor memory.draws (gate.sealedByLogin? memory.draws) := by
  rw [leadToProvider, sealedByLogin?]
  cases gate.usePkce <;> rfl

theorem draws_forward (gate : Gate) (now : Instant) (memory : GateMemory) (session : Session)
    (cookies : List Cookie) :
    (gate.forward now memory session cookies).memory.draws =
      drawsFor memory.draws (gate.sealedByForward? memory.draws session) := by
  rw [Gate.forward, sealedByForward?]
  cases session.userId? with
  | none => exact draws_leadToProvider gate memory _
  | some userId => rfl

/-- A visit draws what it takes to encrypt what it encrypts, and nothing else. -/
theorem draws_outcome (gate : Gate) (record : Record) :
    (gate.outcome record).memory.draws = drawsFor record.memory.draws (gate.sealed? record) := by
  obtain ⟨memory, moment, visit⟩ := record
  simp only [outcome, step, sealed?]
  cases gate.course moment.now visit with
  | pass => rfl
  | forward session cookies => exact draws_forward gate _ memory session cookies
  | renew session =>
    -- A renewed session always has a user, so its forwarding seals nothing more.
    simp only [follow, renew, obtained]
    split
    · rename_i hresult
      simp only [hresult]
      rfl
    · rename_i hresult
      simp only [hresult]
      exact draws_forward gate _ { memory with keys := _ } session _
    · rename_i renewed hresult
      obtain ⟨token, hmade⟩ := madeOf_of_obtain hresult
      simp only [hresult]
      rw [draws_forward, sealedByForward?, if_pos hmade.user]
      rfl
  | exchange code verifier cookies =>
    simp only [follow, exchange, obtained]
    split
    · rename_i hresult
      simp only [hresult]
      rfl
    · rename_i hresult
      simp only [hresult]
      rfl
    · rename_i session hresult
      simp only [hresult]
      rfl
  | login cookies => exact draws_leadToProvider gate memory cookies
  | deny fault cookies => rfl
  | stuck breakdown => rfl

end Gate

end LoginGate
