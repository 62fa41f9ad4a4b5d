import LoginGate.Proofs.Gate.Completion

/-!
# Sessions that are over

A session whose lifetime is over may be forwarded once more: there is no refresh token, or the
provider does not renew the session. The browser is told to forget it in the same visit, whatever
the reason is, and nothing but a new session brings one back. So between two new sessions at most
one visit goes on with an identity that is out of date, and after it the user is led to the
provider.

## Main definitions

* `Gate.SetsSession` : the browser is told to keep a session.
* `Gate.IsRenewed` : the provider renews a session.
* `Gate.ForwardsStale` : a session that is over is forwarded without being renewed.

## Main results

* `Gate.session_jarAfter_of_forwardsStale` : the session is gone after that.
* `Gate.session_of_browse` : it stays so until the browser is told to keep another one.
* `Gate.stale_forwarded_once` : no more than one visit of a browser goes on with it.
-/

namespace LoginGate

namespace Gate

variable {gate : Gate} {record : Record} {session : Session}

/-- The browser is told to keep a session. -/
def SetsSession (gate : Gate) (record : Record) : Prop :=
  ∃ decision, (gate.outcome record).result = .ok decision ∧
    ∃ cookie ∈ decision.cookies, cookie.name = gate.settings.cookieName ∧ cookie.value ≠ ""

/-- A session has a refresh token, and the provider renews it. -/
def IsRenewed (gate : Gate) (record : Record) (session : Session) : Prop :=
  session.hasRefreshToken ∧ ∃ renewed,
    (gate.obtained record (.refresh (session.refreshToken.getD "")) session.refreshToken).result =
      .ok renewed

/-- A session of the jar whose lifetime is over is forwarded, and it is not renewed. -/
structure ForwardsStale (gate : Gate) (record : Record) (session : Session) : Prop where
  resumes : gate.Resumes record.visit session
  expired : session.isExpired? record.moment.now = some true
  unrenewed : ¬ gate.IsRenewed record session
  forwards : ∃ userId groups cookies,
    (gate.outcome record).result = .ok (.forward userId session.identity groups cookies)

/-! ### One visit -/

/-- In a visit with a session that is over, a session is encrypted only if the provider renews that
one. -/
theorem isRenewed_of_sealed (hresumes : gate.Resumes record.visit session)
    (hexpired : session.isExpired? record.moment.now = some true) {renewed : Session}
    (hsealed : gate.sealed? record = some (.session renewed)) : gate.IsRenewed record session := by
  obtain ⟨grant, hgrant, hobtained⟩ := sealed_session hsealed
  rw [course_of_resumes hresumes, courseOfSession, hexpired] at hgrant hobtained
  by_cases hrefresh : session.hasRefreshToken
  · simp only [hrefresh, if_true] at hgrant hobtained
    cases hgrant
    exact ⟨hrefresh, renewed, hobtained⟩
  · simp only [hrefresh] at hgrant
    cases hgrant

/-- After a session that is over has been forwarded, the jar holds none. -/
theorem session_jarAfter_of_forwardsStale (h : gate.ForwardsStale record session) :
    NameMap.get? (gate.jarAfter record) gate.settings.cookieName = none := by
  obtain ⟨userId, groups, cookies, hresult⟩ := h.forwards
  have hspoils : gate.Spoils record := (spoils_iff_of_resumes h.resumes).mpr (.inr h.expired)
  have hnone : ∀ renewed, gate.sealed? record ≠ some (.session renewed) :=
    fun renewed hsealed => h.unrenewed (isRenewed_of_sealed h.resumes h.expired hsealed)
  rw [jarAfter_of_result hresult]
  exact (valueAfter?_of_not_sealed_session h.resumes.1 hresult hnone).1 hspoils

/-- Where the browser is told to keep no session, a jar without one stays so. -/
theorem session_jarAfter_of_not_setsSession (hsets : ¬ gate.SetsSession record)
    (hjar : NameMap.get? record.visit.cookies gate.settings.cookieName = none) :
    NameMap.get? (gate.jarAfter record) gate.settings.cookieName = none := by
  cases hresult : (gate.outcome record).result with
  | error breakdown => rwa [jarAfter, hresult]
  | ok decision =>
    cases hclosed : gate.settings.isBypassed record.visit.path with
    | true => rwa [jarAfter_of_bypassed hclosed]
    | false =>
      have hnone : ∀ session, gate.sealed? record ≠ some (.session session) := by
        intro session hsealed
        exact hsets ⟨decision, hresult, _, cookieOf_mem_cookies hclosed hresult hsealed, rfl,
          valueOf_ne_empty gate record (.session session)⟩
      have hcookie : record.visit.cookie? gate.settings.cookieName = none := by
        rw [Visit.cookie?, hjar, Option.filter_none]
      rw [jarAfter_of_result hresult,
        (valueAfter?_of_not_sealed_session hclosed hresult hnone).2 (not_spoils_of_cookie? hcookie)]
      exact hjar

/-- Nobody is forwarded with a session that the jar does not hold. -/
theorem not_forwardsStale_of_jar
    (hjar : NameMap.get? record.visit.cookies gate.settings.cookieName = none) :
    ¬ gate.ForwardsStale record session := by
  rintro ⟨⟨-, value, hcookie, -⟩, -, -, -⟩
  rw [Visit.get?_of_cookie? hcookie] at hjar
  cases hjar

/-! ### A browser -/

variable {memory : GateMemory} {jar : CookieJar} {clicks : List Click} {records : List Record}

/-- What a browser does from some visit on is what a browser does. -/
theorem exists_browse_of_append {past : List Record}
    (h : gate.browse memory jar clicks = past ++ records) :
    ∃ memory' jar' clicks', gate.browse memory' jar' clicks' = records := by
  induction past generalizing memory jar clicks with
  | nil => exact ⟨memory, jar, clicks, h⟩
  | cons first past ih =>
    obtain ⟨-, -, clicks', hrest⟩ := browse_eq_cons h
    exact ih hrest

/-- A jar without a session stays so until the browser is told to keep one. -/
theorem session_of_browse {quiet rest : List Record}
    (hjar : NameMap.get? jar gate.settings.cookieName = none)
    (h : gate.browse memory jar clicks = quiet ++ record :: rest)
    (hquiet : ∀ passed ∈ quiet, ¬ gate.SetsSession passed) :
    NameMap.get? record.visit.cookies gate.settings.cookieName = none := by
  -- The induction is on the visits in between, each of which leaves such a jar to the next.
  induction quiet generalizing memory jar clicks with
  | nil =>
    obtain ⟨-, rfl, -⟩ := browse_eq_cons h
    exact hjar
  | cons first quiet ih =>
    obtain ⟨-, rfl, clicks', hrest⟩ := browse_eq_cons h
    have hnext := session_jarAfter_of_not_setsSession (hquiet first List.mem_cons_self) hjar
    exact ih hnext hrest fun other hmem => hquiet other (List.mem_cons_of_mem _ hmem)

/-- After a session that is over has been forwarded, no visit brings one until the browser is told
to keep another one. -/
theorem session_of_forwardsStale {past quiet rest : List Record} {stale : Record}
    (h : gate.browse memory jar clicks = past ++ stale :: (quiet ++ record :: rest))
    (hstale : gate.ForwardsStale stale session)
    (hquiet : ∀ passed ∈ quiet, ¬ gate.SetsSession passed) :
    NameMap.get? record.visit.cookies gate.settings.cookieName = none := by
  obtain ⟨memory', jar', clicks', hbrowse⟩ := exists_browse_of_append h
  obtain ⟨-, -, clicks'', hlater⟩ := browse_eq_cons hbrowse
  exact session_of_browse (session_jarAfter_of_forwardsStale hstale) hlater hquiet

/-- Among visits in which the browser is told to keep no session, a session that is over is
forwarded once at most. -/
theorem pairwise_not_forwardsStale {past span later : List Record}
    (h : gate.browse memory jar clicks = past ++ span ++ later)
    (hspan : ∀ record ∈ span, ¬ gate.SetsSession record) :
    span.Pairwise fun first second => ∀ session session',
      gate.ForwardsStale first session → ¬ gate.ForwardsStale second session' := by
  induction span generalizing past with
  | nil => exact .nil
  | cons first span ih =>
    refine .cons ?_ ?_
    · intro second hsecond session session' hfirst hstale
      obtain ⟨quiet, rest, rfl⟩ := List.append_of_mem hsecond
      have hrecords : gate.browse memory jar clicks =
          past ++ first :: (quiet ++ second :: (rest ++ later)) := by simp [h]
      refine not_forwardsStale_of_jar (session_of_forwardsStale hrecords hfirst ?_) hstale
      exact fun passed hpassed => hspan passed (by simp [hpassed])
    · refine @ih (past ++ [first]) (by simp [h]) ?_
      exact fun record hrecord => hspan record (List.mem_cons_of_mem _ hrecord)

/-! ### A session without a refresh token -/

/-- The user comes back with the session of a login, a microsecond after it is over. -/
def sampleStaleReturn : Record where
  memory := ((sampleGate false).outcome sampleCallback).memory
  moment := ⟨43200000001, .none "", []⟩
  visit := { cookies := (sampleGate false).jarAfter sampleCallback }

/-- The user asks for the site once more. -/
def sampleLateReturn : Record where
  memory := ((sampleGate false).outcome sampleStaleReturn).memory
  moment := ⟨43200000001, .none "", []⟩
  visit := { cookies := (sampleGate false).jarAfter sampleStaleReturn }

/-- What the browser asks for. -/
def sampleStaleClicks : List Click :=
  [sampleCallback, sampleStaleReturn, sampleLateReturn].map fun record =>
    ⟨record.moment, record.visit.path, record.visit.query⟩

theorem browse_sampleStaleClicks :
    (sampleGate false).browse {} [] sampleStaleClicks =
      [sampleCallback] ++ sampleStaleReturn :: ([] ++ [sampleLateReturn]) := rfl

theorem resumes_sampleStaleReturn :
    (sampleGate false).Resumes sampleStaleReturn.visit sampleSession := by
  have hvisit : sampleStaleReturn.visit = sampleReturn.visit := by
    rw [sampleStaleReturn, jarAfter_sampleCallback]
    rfl
  rw [hvisit]
  exact resumes_sampleReturn

theorem result_sampleStaleReturn :
    ((sampleGate false).outcome sampleStaleReturn).result =
      .ok (.forward "a@b.c" sampleSession.identity [] [(sampleGate false).plan.clearSession]) := by
  have hexpired : sampleSession.isExpired? sampleStaleReturn.moment.now = some true := by decide
  have hnone : sampleSession.hasRefreshToken = false := rfl
  have hsize : sampleStaleReturn.memory.groups.canRecord := by
    dsimp only [sampleStaleReturn]
    exact @canRecord_outcome (sampleGate false) sampleCallback (by decide)
  rw [outcome, step, course_of_resumes resumes_sampleStaleReturn, courseOfSession, hexpired]
  simp only [hnone, follow, Gate.forward, hsize, if_true]
  rfl

theorem forwardsStale_sampleStaleReturn :
    (sampleGate false).ForwardsStale sampleStaleReturn sampleSession where
  resumes := resumes_sampleStaleReturn
  expired := by decide
  unrenewed := by
    rintro ⟨hrefresh, -⟩
    cases hrefresh
  forwards := ⟨_, _, _, result_sampleStaleReturn⟩

/-- Without a session in the jar, the browser is told nothing on the way to the provider. -/
theorem not_setsSession_sampleLateReturn
    (hjar : NameMap.get? sampleLateReturn.visit.cookies "OIDC_AUTH_SESSION" = none) :
    ¬ (sampleGate false).SetsSession sampleLateReturn := by
  have hcookie : sampleLateReturn.visit.cookie? "OIDC_AUTH_SESSION" = none := by
    rw [Visit.cookie?, hjar, Option.filter_none]
  have hstarts : (sampleGate false).Starts sampleLateReturn.visit := ⟨rfl, hcookie, rfl, rfl⟩
  rintro ⟨decision, hresult, cookie, hmem, -⟩
  rw [outcome_of_starts hstarts] at hresult
  cases hresult
  cases hmem

/-- A session that is over is forwarded once at most. Whatever a browser asks for, and whatever
clock and provider say, among visits in which it is told to keep no session at most one goes on
with the identity of a session whose lifetime is over and that is not renewed. From then on until
it is told to keep one, its jar holds no session, and wherever the path is not open to everybody
and the provider has sent neither a code nor an error, it is led to the provider. -/
theorem stale_forwarded_once (gate : Gate) (memory : GateMemory) (jar : CookieJar)
    (clicks : List Click) :
    (∀ past span later, gate.browse memory jar clicks = past ++ span ++ later →
      (∀ record ∈ span, ¬ gate.SetsSession record) →
      span.Pairwise fun first second => ∀ session session',
        gate.ForwardsStale first session → ¬ gate.ForwardsStale second session') ∧
      ∀ past stale later session, gate.browse memory jar clicks = past ++ stale :: later →
        gate.ForwardsStale stale session →
        NameMap.get? (gate.jarAfter stale) gate.settings.cookieName = none ∧
          ∀ quiet next rest, later = quiet ++ next :: rest →
            (∀ record ∈ quiet, ¬ gate.SetsSession record) →
            NameMap.get? next.visit.cookies gate.settings.cookieName = none ∧
              (¬ gate.SetsSession next →
                NameMap.get? (gate.jarAfter next) gate.settings.cookieName = none) ∧
              (gate.settings.isBypassed next.visit.path = false →
                next.visit.parameter? "error" = none → next.visit.parameter? "code" = none →
                ∃ decision, (gate.outcome next).result = .ok decision ∧
                  gate.LeadsToProvider decision) := by
  refine ⟨fun past span later => pairwise_not_forwardsStale, ?_⟩
  intro past stale later session hbrowse hstale
  refine ⟨session_jarAfter_of_forwardsStale hstale, ?_⟩
  rintro quiet next rest rfl hquiet
  have hjar := session_of_forwardsStale hbrowse hstale hquiet
  refine ⟨hjar, fun hsets => session_jarAfter_of_not_setsSession hsets hjar, ?_⟩
  intro hclosed herror hcode
  have hcookie : next.visit.cookie? gate.settings.cookieName = none := by
    rw [Visit.cookie?, hjar, Option.filter_none]
  obtain ⟨more, hresult⟩ := gate.leadToProvider_result_eq next.memory []
  rw [outcome_of_starts ⟨hclosed, hcookie, herror, hcode⟩]
  exact ⟨_, hresult, more, _, rfl⟩

/-- The session of a login is forwarded once after it is over, and then the user is led to the
provider. -/
theorem stale_forwarded_once_without_refresh_token :
    (sampleGate false).browse {} [] sampleStaleClicks =
        [sampleCallback] ++ sampleStaleReturn :: ([] ++ [sampleLateReturn]) ∧
      (sampleGate false).ForwardsStale sampleStaleReturn sampleSession ∧
      (∀ record ∈ [sampleStaleReturn, sampleLateReturn],
        ¬ (sampleGate false).SetsSession record) ∧
      (∀ session, ¬ (sampleGate false).ForwardsStale sampleLateReturn session) ∧
      NameMap.get? ((sampleGate false).jarAfter sampleStaleReturn) "OIDC_AUTH_SESSION" = none ∧
      ∃ decision, ((sampleGate false).outcome sampleLateReturn).result = .ok decision ∧
        (sampleGate false).LeadsToProvider decision := by
  obtain ⟨hspan, honce⟩ := stale_forwarded_once (sampleGate false) {} [] sampleStaleClicks
  obtain ⟨hjar, hlater⟩ :=
    honce _ _ _ _ browse_sampleStaleClicks forwardsStale_sampleStaleReturn
  obtain ⟨hlate, -, hled⟩ := hlater [] sampleLateReturn [] rfl (List.forall_mem_nil _)
  have hquiet : ∀ record ∈ [sampleStaleReturn, sampleLateReturn],
      ¬ (sampleGate false).SetsSession record := by
    intro record hrecord
    rcases List.mem_pair.mp hrecord with rfl | rfl
    · rintro ⟨decision, hresult, cookie, hcookie, -, hvalue⟩
      cases hresult.symm.trans result_sampleStaleReturn
      rw [List.mem_singleton.mp hcookie] at hvalue
      exact hvalue rfl
    · exact not_setsSession_sampleLateReturn hlate
  have hpairwise := hspan [sampleCallback] _ [] browse_sampleStaleClicks hquiet
  have hnever := List.rel_of_pairwise_cons hpairwise (List.mem_singleton_self _)
  exact ⟨browse_sampleStaleClicks, forwardsStale_sampleStaleReturn, hquiet,
    fun session => hnever _ session forwardsStale_sampleStaleReturn, hjar, hled rfl rfl rfl⟩

end Gate

end LoginGate
