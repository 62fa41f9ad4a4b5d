import LoginGate.Proofs.Gate.History

/-!
# How visits end

A visit that ends with a decision ends in one of seven ways. Each is said here once, with the
cookies of the decision and with what the visit has encrypted, so that whatever is to be shown of
all decisions is shown for these seven.

## Main definitions

* `Gate.cookieOf`, `Gate.keptCookies` : the cookies that keep what is encrypted.
* `Gate.Ends` : the ways in which a visit ends.

## Main results

* `Gate.ends_of_result` : every decision is made in one of them.
-/

namespace LoginGate.Gate

variable {gate : Gate} {record : Record} {decision : Decision}

/-- The cookie that keeps what is encrypted, under the next initialisation vector. -/
def cookieOf (gate : Gate) (draws : Draws) : Sealed → Cookie
  | .session session => gate.keepSession draws session
  | .attempt attempt => gate.plan.state (gate.entropy.iv draws.ivs) attempt

/-- The cookies that keep what a visit has encrypted: one at most. -/
def keptCookies (gate : Gate) (record : Record) : List Cookie :=
  ((gate.sealed? record).map (gate.cookieOf record.memory.draws)).toList

theorem keptCookies_of_none (h : gate.sealed? record = none) : gate.keptCookies record = [] := by
  rw [keptCookies, h]
  rfl

theorem keptCookies_of_some {content : Sealed} (h : gate.sealed? record = some content) :
    gate.keptCookies record = [gate.cookieOf record.memory.draws content] := by
  rw [keptCookies, h]
  rfl

/-- The ways in which a visit ends with a decision. -/
inductive Ends (gate : Gate) (record : Record) : Decision → Prop
  /-- The path is open to everybody. -/
  | passed (hopen : gate.settings.isBypassed record.visit.path)
      (hsealed : gate.sealed? record = none) : Ends gate record .pass
  /-- The session at hand is forwarded as it is. -/
  | forwarded {session : Session} {userId : String} (hresumes : gate.Resumes record.visit session)
      (huser : session.userId? = some userId) (hsealed : gate.sealed? record = none) :
      Ends gate record (.forward userId session.identity session.identity.groupsAndRoles
        (gate.staleCookies record.moment.now session))
  /-- The session at hand is renewed, and the new one is forwarded. -/
  | renewed {session renewed : Session} {userId : String}
      (hresumes : gate.Resumes record.visit session) (huser : renewed.userId? = some userId)
      (hsealed : gate.sealed? record = some (.session renewed)) :
      Ends gate record (.forward userId renewed.identity renewed.identity.groupsAndRoles
        (gate.keptCookies record))
  /-- The session at hand is nobody's, and the user is led to the provider. -/
  | nobody {session : Session} {more : NameMap} (hresumes : gate.Resumes record.visit session)
      (huser : session.userId? = none)
      (hsealed : gate.sealed? record = gate.sealedByLogin? record.memory.draws) :
      Ends gate record (.redirect (gate.authorizationUrl more)
        (gate.plan.clearSession :: gate.keptCookies record) false)
  /-- There is no session, and the user is led to the provider. -/
  | led {more : NameMap} (hbegins : gate.Begins record.visit)
      (hcallback : gate.isCallback record.visit = false)
      (hsealed : gate.sealed? record = gate.sealedByLogin? record.memory.draws) :
      Ends gate record (.redirect (gate.authorizationUrl more)
        (gate.refusedCookies record.visit ++ gate.keptCookies record) false)
  /-- A code is exchanged for a session, and the user is led into the site. -/
  | admitted {session : Session} (hbegins : gate.Begins record.visit)
      (hsealed : gate.sealed? record = some (.session session)) :
      Ends gate record (.redirect gate.settings.postLoginPath
        (gate.refusedCookies record.visit ++ gate.finishCookies record.visit ++
          gate.keptCookies record) true)
  /-- The login is denied. -/
  | denied {fault : LoginFault} (hbegins : gate.Begins record.visit)
      (hsealed : gate.sealed? record = none) :
      Ends gate record (.deny fault.denial
        (gate.refusedCookies record.visit ++ gate.finishCookies record.visit))

/-- Who is led to the provider is told to keep the login attempt, after what is said before. -/
theorem leadToProvider_result_eq (gate : Gate) (memory : GateMemory) (cookies : List Cookie) :
    ∃ more, (gate.leadToProvider memory cookies).result =
      .ok (.redirect (gate.authorizationUrl more) (cookies ++
        ((gate.sealedByLogin? memory.draws).map (gate.cookieOf memory.draws)).toList) false) := by
  rw [leadToProvider, sealedByLogin?]
  split
  · exact ⟨_, rfl⟩
  · rw [Option.map_none, Option.toList_none, List.append_nil]
    exact ⟨_, rfl⟩

/-- The session at hand is forwarded as it is, or leads to the provider. -/
theorem ends_of_forward {memory : GateMemory} {session : Session}
    (hresumes : gate.Resumes record.visit session)
    (hsealed : gate.sealed? record = gate.sealedByForward? record.memory.draws session)
    (h : (gate.forward record.moment.now memory session
      (gate.staleCookies record.moment.now session)).result = .ok decision)
    (hdraws : memory.draws = record.memory.draws) : gate.Ends record decision := by
  rw [Gate.forward] at h
  cases huser : session.userId? with
  | none =>
    rw [huser] at h
    have hlogin : gate.sealed? record = gate.sealedByLogin? record.memory.draws := by
      rw [hsealed, sealedByForward?, huser]
      rfl
    obtain ⟨more, hresult⟩ := gate.leadToProvider_result_eq memory [gate.plan.clearSession]
    rw [hresult, hdraws, ← hlogin] at h
    cases h
    exact .nobody hresumes huser hlogin
  | some userId =>
    simp only [huser] at h
    have hnone : gate.sealed? record = none := by
      rw [hsealed, sealedByForward?, huser]
      rfl
    split at h
    · cases h
      exact .forwarded hresumes huser hnone
    · cases h

/-- A session that is renewed is forwarded, and the old one if that fails. -/
theorem ends_of_renew {session : Session}
    (hcourse : gate.course record.moment.now record.visit = .renew session)
    (h : (gate.outcome record).result = .ok decision) : gate.Ends record decision := by
  have hexplains := gate.explains_course record.moment.now record.visit
  rw [hcourse] at hexplains
  obtain ⟨hresumes, -⟩ := hexplains
  rw [outcome, step, hcourse] at h
  simp only [follow, renew] at h
  split at h
  · cases h
  · rename_i hresult
    have hsealed : gate.sealed? record =
        gate.sealedByForward? record.memory.draws session := by
      simp only [sealed?, hcourse, obtained, hresult]
    rw [course_of_resumes hresumes] at hcourse
    obtain ⟨-, hexpired, -⟩ := courseOfSession_eq_renew_iff.mp hcourse
    have hstale : gate.staleCookies record.moment.now session = [gate.plan.clearSession] :=
      if_pos hexpired
    rw [← hstale] at h
    exact ends_of_forward hresumes hsealed h rfl
  · rename_i renewed hresult
    have hsealed : gate.sealed? record = some (.session renewed) := by
      simp only [sealed?, hcourse, obtained, hresult]
    have hkept : gate.keptCookies record = [gate.keepSession record.memory.draws renewed] :=
      keptCookies_of_some hsealed
    obtain ⟨token, hmade⟩ := madeOf_of_sealed hsealed
    obtain ⟨userId, huser⟩ := Option.isSome_iff_exists.mp hmade.user
    simp only [Gate.forward, huser] at h
    split at h
    · cases h
      rw [← hkept]
      exact .renewed hresumes huser hsealed
    · cases h

/-- A code that is exchanged lets the user in, or the login is denied. -/
theorem ends_of_exchange {code : String} {verifier : Option String} {cookies : List Cookie}
    (hcourse : gate.course record.moment.now record.visit = .exchange code verifier cookies)
    (h : (gate.outcome record).result = .ok decision) : gate.Ends record decision := by
  have hexplains := gate.explains_course record.moment.now record.visit
  rw [hcourse] at hexplains
  obtain ⟨hbegins, -⟩ := hexplains
  obtain rfl := cookies_of_begins hbegins (congrArg Course.cookies hcourse)
  rw [outcome, step, hcourse] at h
  simp only [follow, exchange] at h
  split at h
  · cases h
  · rename_i hresult
    cases h
    exact .denied hbegins (by simp only [sealed?, hcourse, obtained, hresult])
  · rename_i session hresult
    cases h
    have hsealed : gate.sealed? record = some (.session session) := by
      simp only [sealed?, hcourse, obtained, hresult]
    have hkept : gate.keptCookies record = [gate.keepSession record.memory.draws session] :=
      keptCookies_of_some hsealed
    rw [← hkept]
    exact .admitted hbegins hsealed

/-- A visit that ends with a decision ends in one of the seven ways. -/
theorem ends_of_result (h : (gate.outcome record).result = .ok decision) :
    gate.Ends record decision := by
  have hexplains := gate.explains_course record.moment.now record.visit
  have hresult := h
  rw [outcome, step] at hresult
  cases hcourse : gate.course record.moment.now record.visit with
  | pass =>
    rw [hcourse] at hresult hexplains
    cases hresult
    exact .passed hexplains (by rw [sealed?, hcourse])
  | forward session cookies =>
    rw [hcourse] at hresult hexplains
    obtain ⟨hresumes, -⟩ := hexplains
    have hsealed : gate.sealed? record =
        gate.sealedByForward? record.memory.draws session := by rw [sealed?, hcourse]
    rw [course_of_resumes hresumes] at hcourse
    obtain ⟨-, rfl⟩ := courseOfSession_eq_forward hcourse
    exact ends_of_forward hresumes hsealed hresult rfl
  | renew session => exact ends_of_renew hcourse h
  | exchange code verifier cookies => exact ends_of_exchange hcourse h
  | login cookies =>
    rw [hcourse] at hresult hexplains
    have hcallback := isCallback_of_course_eq_login hexplains hcourse
    have hsealed : gate.sealed? record = gate.sealedByLogin? record.memory.draws := by
      rw [sealed?, hcourse]
    obtain rfl := cookies_of_begins hexplains (congrArg Course.cookies hcourse)
    obtain ⟨more, hled⟩ := gate.leadToProvider_result_eq record.memory
      (gate.refusedCookies record.visit ++ gate.finishCookies record.visit)
    rw [follow, hled, finishCookies, hcallback, if_neg Bool.false_ne_true, List.append_nil,
      ← hsealed] at hresult
    cases hresult
    exact .led hexplains hcallback hsealed
  | deny fault cookies =>
    rw [hcourse] at hresult hexplains
    cases hresult
    obtain rfl := cookies_of_begins hexplains (congrArg Course.cookies hcourse)
    exact .denied hexplains (by rw [sealed?, hcourse])
  | stuck breakdown =>
    rw [hcourse] at hresult
    cases hresult

end LoginGate.Gate
