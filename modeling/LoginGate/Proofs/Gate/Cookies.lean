import LoginGate.Proofs.Gate.Ends
import LoginGate.Proofs.Settings.Checked

/-!
# What the browser is told

With a decision the browser is told what to forget and what to keep. It is told nothing but to
forget a session, to forget a login attempt, and to keep what the visit has encrypted, under the
name for what it is.

## Main definitions

* `Gate.Tells` : what a cookie tells the browser.

## Main results

* `Gate.tells_of_mem_cookies` : every cookie of a decision is explained by its visit.
* `Gate.ofCookieValue_of_sealed` : the session that the browser is told to keep is read back.
-/

namespace LoginGate

namespace Gate

variable {gate : Gate} {record : Record} {cookie : Cookie}

/-- What a cookie tells the browser in a visit. -/
inductive Tells (gate : Gate) (record : Record) : Cookie → Prop
  /-- To forget the session. -/
  | forgetSession : Tells gate record gate.plan.clearSession
  /-- To forget the login attempt. -/
  | forgetAttempt : Tells gate record gate.plan.clearState
  /-- To keep the session that the visit has encrypted. -/
  | keepSession {session : Session} (h : gate.sealed? record = some (.session session)) :
      Tells gate record (gate.plan.session (gate.iv record) session)
  /-- To keep the login attempt that the visit has encrypted. -/
  | keepAttempt {attempt : LoginAttempt} (h : gate.sealed? record = some (.attempt attempt)) :
      Tells gate record (gate.plan.state (gate.iv record) attempt)

/-! ### Decisions -/

theorem tells_of_mem_refusedCookies (h : cookie ∈ gate.refusedCookies record.visit) :
    gate.Tells record cookie := by
  rw [(gate.refusedCookies_eq record.visit).1 cookie h]
  exact .forgetSession

theorem tells_of_mem_finishCookies (h : cookie ∈ gate.finishCookies record.visit) :
    gate.Tells record cookie := by
  rw [(gate.finishCookies_eq record.visit).1 cookie h]
  exact .forgetAttempt

theorem tells_of_mem_keptCookies (h : cookie ∈ gate.keptCookies record) :
    gate.Tells record cookie := by
  rw [keptCookies, Option.mem_toList, Option.map_eq_some_iff] at h
  obtain ⟨content, hsealed, rfl⟩ := h
  cases content with
  | session session => exact .keepSession hsealed
  | attempt attempt => exact .keepAttempt hsealed

/-- Every cookie of a decision is explained by its visit. -/
theorem tells_of_mem_cookies {decision : Decision}
    (h : (gate.outcome record).result = .ok decision) (hcookie : cookie ∈ decision.cookies) :
    gate.Tells record cookie := by
  cases ends_of_result h with
  | passed => cases hcookie
  | forwarded =>
    rw [(gate.staleCookies_eq _ _).1 cookie hcookie]
    exact .forgetSession
  | renewed => exact tells_of_mem_keptCookies hcookie
  | nobody =>
    rcases List.mem_cons.mp hcookie with rfl | hcookie
    · exact .forgetSession
    · exact tells_of_mem_keptCookies hcookie
  | led =>
    rcases List.mem_append.mp hcookie with hcookie | hcookie
    · exact tells_of_mem_refusedCookies hcookie
    · exact tells_of_mem_keptCookies hcookie
  | admitted =>
    rcases List.mem_append.mp hcookie with hcookie | hcookie
    · rcases List.mem_append.mp hcookie with hcookie | hcookie
      · exact tells_of_mem_refusedCookies hcookie
      · exact tells_of_mem_finishCookies hcookie
    · exact tells_of_mem_keptCookies hcookie
  | denied =>
    rcases List.mem_append.mp hcookie with hcookie | hcookie
    · exact tells_of_mem_refusedCookies hcookie
    · exact tells_of_mem_finishCookies hcookie

/-! ### What is kept is read back -/

/-- A lifetime between two dates has not too many digits. -/
theorem isReadableInt_of_inRange {now : Instant} {seconds : Int} (hnow : Timestamp.inRange now)
    (hend : Timestamp.inRange (now + seconds * microsPerSecond)) : Json.isReadableInt seconds := by
  rw [Timestamp.inRange, Timestamp.minWall, Timestamp.maxWall, Bool.and_eq_true,
    decide_eq_true_eq, decide_eq_true_eq] at hnow hend
  rw [microsPerSecond] at hend
  have hsmall : seconds.natAbs < 10 ^ 12 := by omega
  have hdigits : (Nat.toDigits 10 seconds.natAbs).length ≤ 12 :=
    (Nat.length_toDigits_le_iff (by decide) (by decide)).mpr hsmall
  rw [Json.isReadableInt, decide_eq_true_eq]
  exact Nat.le_trans hdigits (by decide)

/-- A session that a visit has encrypted is read back, if the clock shows a date in the visit. -/
theorem ofCookieValue_of_sealed {session : Session} (hclock : Timestamp.inRange record.moment.now)
    (h : gate.sealed? record = some (.session session)) :
    Session.ofCookieValue gate.settings.key (gate.valueOf record (.session session)) =
      .ok session := by
  obtain ⟨token, hmade⟩ := madeOf_of_sealed h
  rw [valueOf_session, Session.ofCookieValue_toCookieValue _ (length_iv gate record)
    hmade.expiresAt hmade.inRange, if_pos (isReadableInt_of_inRange hclock hmade.inRange)]

/-- A login attempt that a visit has encrypted is read back. -/
theorem ofCookieValue_valueOf_attempt (gate : Gate) (record : Record) (attempt : LoginAttempt) :
    LoginAttempt.ofCookieValue gate.settings.key (gate.valueOf record (.attempt attempt)) =
      .ok attempt := by
  rw [valueOf_attempt]
  exact LoginAttempt.ofCookieValue_toCookieValue _ (length_iv gate record) attempt

/-- A session cookie with a value keeps the session that the visit has encrypted. -/
theorem Tells.exists_session (h : gate.Tells record cookie)
    (hname : cookie.name = gate.settings.cookieName) (hvalue : cookie.value ≠ "") :
    ∃ session, gate.sealed? record = some (.session session) ∧
      cookie.value = gate.valueOf record (.session session) := by
  cases h with
  | forgetSession => exact absurd rfl hvalue
  | forgetAttempt => exact absurd rfl hvalue
  | keepSession hsealed => exact ⟨_, hsealed, rfl⟩
  | keepAttempt _ => exact absurd hname (gate.settings.stateCookieName_ne)

/-- A state cookie with a value keeps the login attempt that the visit has encrypted. -/
theorem Tells.exists_attempt (h : gate.Tells record cookie)
    (hname : cookie.name = gate.settings.stateCookieName) (hvalue : cookie.value ≠ "") :
    ∃ attempt, gate.sealed? record = some (.attempt attempt) := by
  cases h with
  | forgetSession => exact absurd rfl hvalue
  | forgetAttempt => exact absurd rfl hvalue
  | keepSession _ => exact absurd hname.symm (gate.settings.stateCookieName_ne)
  | keepAttempt hsealed => exact ⟨_, hsealed⟩

end Gate

end LoginGate
