import LoginGate.Proofs.Gate.Contact
import LoginGate.Site.Basic

/-!
# The status of a denial

Every reason to deny a login has a status of its own: 400 if the provider reports an error, 401 if
the login attempt or the token is refused, and 502 if there is no answer of the token endpoint that
can be read. If the endpoint refuses a code, its own status is passed on, whatever that is. So a
denial has an error status, unless the endpoint has refused the code of the visit with another one.
A refusal that is no text in the encoding that it names leads to no denial at all.

## Main definitions

* `Http.IsError` : a status tells of an error.
* `Gate.RefusesCode` : the token endpoint refuses the code of a visit.

## Main results

* `LoginFault.status_denial` : the only fault whose status is not fixed.
* `Gate.obtain_eq_endpoint_iff` : when it is the token endpoint that gives no session.
* `Gate.exists_fault_of_deny` : what a denial comes from.
* `Gate.denied_with_status` : the status with which a login is denied.
-/

namespace LoginGate

/-- A status tells of an error, of the client or of the server. -/
def Http.IsError (status : Int) : Prop := 400 ≤ status ∧ status ≤ 599

/-- The status of a denial is one of three, unless it is that with which the token endpoint has
refused. -/
theorem LoginFault.status_denial (fault : LoginFault) :
    (fault.denial.status = 400 ∨ fault.denial.status = 401 ∨ fault.denial.status = 502) ∨
      ∃ reason body, fault = .endpoint (.refused fault.denial.status reason body) := by
  cases fault with
  | provider error description => exact .inl (.inl rfl)
  | noAttempt name => exact .inl (.inr (.inl rfl))
  | attempt name fault => exact .inl (.inr (.inl rfl))
  | otherState received => exact .inl (.inr (.inl rfl))
  | endpoint fault =>
    cases fault with
    | unreachable why => exact .inl (.inr (.inr rfl))
    | refused status reason body => exact .inr ⟨reason, body, rfl⟩
    | unreadable => exact .inl (.inr (.inr rfl))
    | error document => exact .inl (.inr (.inl rfl))
  | token fault => exact .inl (.inr (.inl rfl))
  | noUser strategy => exact .inl (.inr (.inl rfl))

/-- The endpoint refuses with every status but 200, in the words of a body that is text. -/
theorem TokenEndpoint.read_eq_refused_iff {endpoint : TokenEndpoint} {answer : Http.Answer}
    {status : Int} {reason body : String} :
    endpoint.read answer = .error (.fault (.refused status reason body)) ↔
      ∃ message, answer = .message message ∧ message.status = status ∧ status ≠ 200 ∧
        message.reason = reason ∧ message.text? endpoint.agent = some body := by
  cases answer with
  | none why => simp [read]
  | message message =>
    simp only [read, Http.Answer.message.injEq, exists_eq_left']
    by_cases hstatus : message.status = 200
    · rw [if_neg (not_not_intro hstatus)]
      split <;> grind
    · rw [if_pos hstatus]
      cases message.text? endpoint.agent <;> grind

namespace Gate

variable {gate : Gate} {record : Record} {denial : Denial} {cookies : List Cookie}

/-! ### Where denials come from -/

/-- It is the token endpoint that gives no session exactly if it can be asked and gives no token. -/
theorem obtain_eq_endpoint_iff {moment : Moment} {keys : Jwt.KeyStore} {grant : Grant}
    {previous : Option String} {fault : TokenEndpointFault} :
    (gate.obtain moment keys grant previous).result = .error (.fault (.endpoint fault)) ↔
      (gate.tokenEndpoint.request? grant).isSome ∧
        gate.tokenEndpoint.read moment.tokenAnswer = .error (.fault fault) := by
  by_cases hrequest : (gate.tokenEndpoint.request? grant).isSome
  · simp only [obtain_result_eq_error_iff hrequest, tokenFailure_eq_fault_iff, accept_eq_error_iff,
      hrequest, true_and]
    constructor
    · rintro (⟨found, hread, hsame⟩ | ⟨token, -, ⟨-, -, refusal, -, hother⟩ | ⟨draft, -, hother⟩⟩)
      · obtain ⟨refusal, rfl, hrefusal⟩ := endpointFailure_eq_fault_iff.mp hsame
        cases hrefusal
        exact hread
      · cases hother
      · simp at hother
    · intro hread
      exact .inl ⟨.fault fault, hread, rfl⟩
  · simp [obtain_result, hrequest]

theorem forward_ne_deny (now : Instant) (memory : GateMemory) (session : Session)
    (kept : List Cookie) :
    (gate.forward now memory session kept).result ≠ .ok (.deny denial cookies) := by
  intro h
  rcases gate.result_forward_cases now memory session kept with
    ⟨location, told, hredirect⟩ | ⟨userId, -, hforward⟩
  · cases hredirect.symm.trans h
  · rw [hforward] at h
    split at h <;> cases h

/-- A login is denied for a fault of the visit itself, or for one in the exchange of its code. -/
theorem exists_fault_of_deny (h : (gate.outcome record).result = .ok (.deny denial cookies)) :
    ∃ fault : LoginFault, fault.denial = denial ∧
      (gate.course record.moment.now record.visit = .deny fault cookies ∨
        ∃ code verifier,
          gate.course record.moment.now record.visit = .exchange code verifier cookies ∧
          (gate.obtained record (.code code verifier) none).result = .error (.fault fault)) := by
  obtain ⟨memory, moment, visit⟩ := record
  simp only [outcome, step, obtained] at h ⊢
  cases hcourse : gate.course moment.now visit with
  | pass =>
    rw [hcourse] at h
    cases h
  | forward session kept =>
    rw [hcourse] at h
    exact absurd h (forward_ne_deny _ _ _ _)
  | renew session =>
    rw [hcourse] at h
    simp only [follow, renew] at h
    split at h
    · cases h
    · exact absurd h (forward_ne_deny _ _ _ _)
    · exact absurd h (forward_ne_deny _ _ _ _)
  | exchange code verifier kept =>
    rw [hcourse] at h
    simp only [follow, exchange] at h
    split at h
    · cases h
    · rename_i fault hfault
      cases h
      exact ⟨fault, rfl, .inr ⟨code, verifier, rfl, hfault⟩⟩
    · cases h
  | login kept =>
    rw [hcourse, follow] at h
    obtain ⟨location, told, hredirect⟩ := gate.result_leadToProvider_cases memory kept
    cases hredirect.symm.trans h
  | deny fault kept =>
    rw [hcourse] at h
    cases h
    exact ⟨fault, rfl, .inl rfl⟩
  | stuck breakdown =>
    rw [hcourse] at h
    cases h

/-- What is wrong with a visit itself is no fault of the token endpoint. -/
theorem ne_endpoint_of_course_eq_deny {now : Instant} {visit : Visit} {fault : LoginFault}
    (h : gate.course now visit = .deny fault cookies) (other : TokenEndpointFault) :
    fault ≠ .endpoint other := by
  rintro rfl
  have hbegins : gate.Begins visit := by
    have hexplains := gate.explains_course now visit
    rwa [h] at hexplains
  rw [course_of_begins hbegins, courseOfLogin] at h
  split at h
  · cases h
  · split at h
    · simp only [courseOfCallback, completedAttempt] at h
      grind
    · cases h

/-! ### Statuses -/

/-- The token endpoint refuses the code of a visit: the code is to be redeemed, requests can go to
the endpoint, and it answers with a status other than 200. -/
structure RefusesCode (gate : Gate) (record : Record) (status : Int) : Prop where
  redeems : gate.Redeems record.visit
  endpoint : gate.tokenEndpoint.address?.isSome
  answered : ∃ message, record.moment.tokenAnswer = .message message ∧ message.status = status
  status_ne : status ≠ 200

/-- The token endpoint refuses the code of a visit, and says so in a text, exactly if this keeps the
visit from a session. -/
theorem refusesCode_and_text_iff {status : Int} :
    (gate.RefusesCode record status ∧
        ¬ gate.tokenEndpoint.RefusesWithoutText record.moment.tokenAnswer) ↔
      ∃ code verifier cookies reason body,
        gate.course record.moment.now record.visit = .exchange code verifier cookies ∧
          (gate.obtained record (.code code verifier) none).result =
            .error (.fault (.endpoint (.refused status reason body))) := by
  simp only [obtained, obtain_eq_endpoint_iff, TokenEndpoint.isSome_request?,
    TokenEndpoint.read_eq_refused_iff]
  constructor
  · rintro ⟨⟨hredeems, hendpoint, ⟨message, hanswer, rfl⟩, hne⟩, htext⟩
    obtain ⟨code, verifier, cookies, hcourse⟩ :=
      (course_eq_exchange_iff record.moment.now).mpr hredeems
    obtain ⟨body, hbody⟩ := Option.ne_none_iff_exists'.mp fun hnone =>
      htext ⟨message, hanswer, hne, hnone⟩
    exact ⟨code, verifier, cookies, _, body, hcourse, hendpoint, message, hanswer, rfl, hne, rfl,
      hbody⟩
  · rintro ⟨code, verifier, cookies, reason, body, hcourse, hendpoint, message, hanswer, rfl, hne,
      -, hbody⟩
    refine ⟨⟨(course_eq_exchange_iff _).mp ⟨_, _, _, hcourse⟩, hendpoint,
      ⟨message, hanswer, rfl⟩, hne⟩, ?_⟩
    rintro ⟨other, hother, -, hnone⟩
    cases hanswer.symm.trans hother
    cases hbody.symm.trans hnone

/-- A denial has an error status, or else the one with which the token endpoint has refused the code
of the visit. -/
theorem isError_or_refusesCode (h : (gate.outcome record).result = .ok (.deny denial cookies)) :
    Http.IsError denial.status ∨ gate.RefusesCode record denial.status := by
  obtain ⟨fault, rfl, hfault⟩ := exists_fault_of_deny h
  rcases fault.status_denial with hfixed | ⟨reason, body, hrefused⟩
  · exact .inl ⟨by omega, by omega⟩
  · rcases hfault with hcourse | ⟨code, verifier, hcourse, hresult⟩
    · exact absurd hrefused (ne_endpoint_of_course_eq_deny hcourse _)
    · rw [hrefused] at hresult
      exact .inr (refusesCode_and_text_iff.mpr
        ⟨code, verifier, cookies, reason, body, hcourse, hresult⟩).1

/-- A visit whose code the token endpoint refuses in a text is denied with the endpoint's status. -/
theorem deny_of_refusesCode {status : Int} (h : gate.RefusesCode record status)
    (htext : ¬ gate.tokenEndpoint.RefusesWithoutText record.moment.tokenAnswer) :
    ∃ denial cookies, (gate.outcome record).result = .ok (.deny denial cookies) ∧
      denial.status = status := by
  obtain ⟨code, verifier, cookies, reason, body, hcourse, hresult⟩ :=
    refusesCode_and_text_iff.mp ⟨h, htext⟩
  rw [obtained] at hresult
  rw [outcome, step, hcourse]
  simp only [follow, exchange, hresult]
  exact ⟨_, _, rfl, rfl⟩

/-- A visit whose code the token endpoint refuses without text is not denied. -/
theorem undecided_of_refusesWithoutText {status : Int} (h : gate.RefusesCode record status)
    (htext : gate.tokenEndpoint.RefusesWithoutText record.moment.tokenAnswer) :
    (gate.outcome record).result = .error .bodyText := by
  obtain ⟨code, verifier, cookies, hcourse⟩ :=
    (course_eq_exchange_iff record.moment.now).mpr h.redeems
  have hresult : (gate.obtain record.moment record.memory.keys (.code code verifier) none).result =
      .error (.breakdown .bodyText) :=
    (obtain_eq_breakdown_iff h.endpoint).mpr (.inl ⟨rfl, htext⟩)
  rw [outcome, step, hcourse]
  simp only [follow, exchange, hresult]

end Gate

/-- The site answers a request that is denied with the status of the denial. -/
theorem Site.status_of_deny {gate : Gate} {app : App} {memory : GateMemory} {moment : Moment}
    {request : Request} {visit : Visit} {denial : Denial} {cookies : List Cookie} {answer : Answer}
    (hvisit : request.visit? = some visit)
    (hdenied : (gate.step memory moment visit).result = .ok (.deny denial cookies))
    (h : (serve gate app memory moment request).result = .ok answer) :
    answer.status = denial.status := by
  simp only [serve, hvisit, hdenied] at h
  obtain ⟨told, -, rfl⟩ := Result.map_eq_ok_iff.mp h
  rfl

namespace Gate

variable {gate : Gate} {record : Record} {denial : Denial} {cookies : List Cookie}

/-! ### A code that is refused -/

/-- The token endpoint answers the code of a login with a status and nothing else. -/
def sampleRefusal (status : Int) : Record :=
  ⟨{}, ⟨0, .message ⟨status, none, [], none⟩, []⟩, sampleCallback.visit⟩

theorem refusesCode_sampleRefusal {status : Int} (h : status ≠ 200) :
    (sampleGate false).RefusesCode (sampleRefusal status) status where
  redeems := (course_eq_exchange_iff 0).mp ⟨_, _, _, course_sampleCallback⟩
  endpoint := tokenEndpoint_sampleGate
  answered := ⟨_, rfl, rfl⟩
  status_ne := h

theorem not_refusesWithoutText_sampleRefusal (status : Int) :
    ¬ (sampleGate false).tokenEndpoint.RefusesWithoutText
      (sampleRefusal status).moment.tokenAnswer := by
  rintro ⟨message, hmessage, -, htext⟩
  cases hmessage
  cases htext

/-! ### Denials -/

/-- A denied login is answered with the status of the denial. That is an error status, unless the
token endpoint has refused the code of the visit: then it is the status of the endpoint, whatever
that is. It is never 200. -/
theorem denied_with_status (h : (gate.outcome record).result = .ok (.deny denial cookies)) :
    (Http.IsError denial.status ∨ gate.RefusesCode record denial.status) ∧
      (∀ status, gate.RefusesCode record status → denial.status = status) ∧ denial.status ≠ 200 ∧
      ∀ (app : Site.App) (request : Site.Request) (answer : Site.Answer),
        request.visit? = some record.visit →
          (Site.serve gate app record.memory record.moment request).result = .ok answer →
          answer.status = denial.status := by
  have hstatus := isError_or_refusesCode h
  refine ⟨hstatus, fun status hrefuses => ?_, ?_, fun app request answer hvisit hanswer => ?_⟩
  · by_cases htext : gate.tokenEndpoint.RefusesWithoutText record.moment.tokenAnswer
    · cases h.symm.trans (undecided_of_refusesWithoutText hrefuses htext)
    · obtain ⟨found, told, hdenied, hfound⟩ := deny_of_refusesCode hrefuses htext
      cases hdenied.symm.trans h
      exact hfound
  · rcases hstatus with ⟨hlow, -⟩ | hrefuses
    · omega
    · exact hrefuses.status_ne
  · exact Site.status_of_deny hvisit h hanswer

/-- A login whose code the token endpoint answers with 503 is denied with 503. -/
theorem denied_with_status_of_busy_endpoint :
    ∃ denial cookies,
      ((sampleGate false).outcome (sampleRefusal 503)).result = .ok (.deny denial cookies) ∧
        denial.status = 503 ∧ Http.IsError denial.status := by
  have hrefuses : (sampleGate false).RefusesCode (sampleRefusal 503) 503 :=
    refusesCode_sampleRefusal (by decide)
  obtain ⟨denial, cookies, hdenied, -⟩ :=
    deny_of_refusesCode hrefuses (not_refusesWithoutText_sampleRefusal 503)
  obtain ⟨-, hstatus, -, -⟩ := denied_with_status hdenied
  have hstatus := hstatus 503 hrefuses
  exact ⟨denial, cookies, hdenied, hstatus, by rw [hstatus]; exact ⟨by decide, by decide⟩⟩

/-- Not every denial has an error status: a login whose code the token endpoint answers with 302 is
denied with 302. -/
theorem denied_with_redirect :
    make .standard sampleSettings sampleMetadata false ⟨fun _ _ _ => 0⟩ = .ok (sampleGate false) ∧
      ∃ denial cookies,
        ((sampleGate false).outcome (sampleRefusal 302)).result = .ok (.deny denial cookies) ∧
          denial.status = 302 ∧ ¬ Http.IsError denial.status := by
  obtain ⟨denial, cookies, hdenied, hstatus⟩ :=
    deny_of_refusesCode (@refusesCode_sampleRefusal 302 (by decide))
      (not_refusesWithoutText_sampleRefusal 302)
  refine ⟨make_sampleGate false, denial, cookies, hdenied, hstatus, ?_⟩
  rintro ⟨hlow, -⟩
  omega

end Gate

end LoginGate
