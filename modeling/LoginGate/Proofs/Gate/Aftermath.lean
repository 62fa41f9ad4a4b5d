import LoginGate.Proofs.Gate.Jar
import LoginGate.Proofs.Gate.Named

/-!
# The two cookies after a decision

Every branch of a visit puts together its own cookies, and one decision may tell the browser to
forget a session and to keep another. The cookies follow one another in the same order everywhere:
first what makes the browser forget a session that is of no use, then what ends a login attempt, and
last what the visit has encrypted. So it is plain what stands under the two names when the browser
has done what it is told.

## Main definitions

* `Gate.Spoils` : the session at hand is of no use.
* `Gate.LeadsToProvider` : a decision leads to the provider.
* `Gate.SettlesSession`, `Gate.SettlesAttempt` : what stands under the two names after a decision.

## Main results

* `Gate.exists_cookies_eq` : how the cookies of a decision follow one another.
* `Gate.exists_sealed_attempt_iff` : a login attempt is encrypted on the way to the provider.
* `Gate.settles_cookies` : what every decision does to the two cookies.
-/

namespace LoginGate

/-! ### Jars -/

namespace CookieJar

variable {jar : CookieJar} {cookies : List Cookie} {name : String}

theorem applyAll_append (jar : CookieJar) (first second : List Cookie) :
    jar.applyAll (first ++ second) = (jar.applyAll first).applyAll second :=
  List.foldl_append ..

/-- What stands under the name of the last cookie is what that cookie says. -/
theorem get?_applyAll_concat (jar : CookieJar) (cookies : List Cookie) (cookie : Cookie) :
    NameMap.get? (jar.applyAll (cookies ++ [cookie])) cookie.name =
      if cookie.isDeletion then none else some cookie.value := by
  rw [applyAll_append]
  exact (get?_apply _ cookie cookie.name).trans (if_pos rfl)

/-- Cookies of other names leave alone what stands under a name. -/
theorem get?_applyAll_of_ne (h : ∀ cookie ∈ cookies, cookie.name ≠ name) :
    NameMap.get? (jar.applyAll cookies) name = NameMap.get? jar name := by
  induction cookies generalizing jar with
  | nil => rfl
  | cons cookie cookies ih =>
    have hother : NameMap.get? (jar.apply cookie) name = NameMap.get? jar name := by
      rw [get?_apply, if_neg (h cookie List.mem_cons_self).symm]
    exact (ih fun other hmem => h other (List.mem_cons_of_mem _ hmem)).trans hother

/-- What the browser is told to forget, perhaps more than once, is gone. -/
theorem get?_applyAll_of_eq_deletion (deletion : Cookie) (hdeletion : deletion.isDeletion)
    (hne : cookies ≠ []) (h : ∀ cookie ∈ cookies, cookie = deletion) :
    NameMap.get? (jar.applyAll cookies) deletion.name = none := by
  have hlast : cookies.getLast hne = deletion := h _ (List.getLast_mem hne)
  rw [← List.dropLast_concat_getLast hne, hlast, get?_applyAll_concat, if_pos hdeletion]

end CookieJar

namespace Gate

variable {gate : Gate} {record : Record} {decision : Decision}

/-! ### The order of the cookies -/

/-- The session at hand is of no use: it is refused, or nobody's, or its lifetime is over. -/
def Spoils (gate : Gate) (record : Record) : Prop :=
  ∃ value, record.visit.cookie? gate.settings.cookieName = some value ∧
    ((∃ fault, Session.ofCookieValue gate.settings.key value = .error fault) ∨
      ∃ session, Session.ofCookieValue gate.settings.key value = .ok session ∧
        (session.userId? = none ∨ session.isExpired? record.moment.now = some true))

theorem spoils_iff_of_resumes {session : Session} (h : gate.Resumes record.visit session) :
    gate.Spoils record ↔
      session.userId? = none ∨ session.isExpired? record.moment.now = some true := by
  obtain ⟨-, value, hcookie, hsession⟩ := h
  simp [Spoils, hcookie, hsession]

theorem spoils_iff_of_begins (h : gate.Begins record.visit) :
    gate.Spoils record ↔ (record.visit.cookie? gate.settings.cookieName).isSome := by
  obtain ⟨-, hlacks⟩ := h
  rw [lacksSession] at hlacks
  cases hcookie : record.visit.cookie? gate.settings.cookieName with
  | none => simp [Spoils, hcookie]
  | some value =>
    rw [hcookie] at hlacks
    cases hsession : Session.ofCookieValue gate.settings.key value with
    | error fault => simp [Spoils, hcookie, hsession]
    | ok session =>
      simp only [hsession] at hlacks
      cases hlacks

/-- The cookies of a decision follow one another: first those that make the browser forget the
session, then the one that ends a login attempt, and last the one that keeps what is encrypted. If
no session is kept, one is forgotten exactly if it is of no use. -/
theorem exists_cookies_eq (hclosed : gate.settings.isBypassed record.visit.path = false)
    (h : (gate.outcome record).result = .ok decision) :
    ∃ discarded, decision.cookies =
        discarded ++ gate.finishCookies record.visit ++ gate.keptCookies record ∧
      (∀ cookie ∈ discarded, cookie = gate.plan.clearSession) ∧
      ((∀ session, gate.sealed? record ≠ some (.session session)) →
        (discarded ≠ [] ↔ gate.Spoils record)) := by
  cases ends_of_result h with
  | passed hopen => cases hclosed.symm.trans hopen
  | @forwarded session userId hresumes huser hsealed =>
    obtain ⟨hclear, hne⟩ := gate.staleCookies_eq record.moment.now session
    refine ⟨_, ?_, hclear, fun _ => ?_⟩
    · simp [Decision.cookies, finishCookies_of_resumes hresumes, keptCookies_of_none hsealed]
    · simp [hne, spoils_iff_of_resumes hresumes, huser]
  | renewed hresumes _ hsealed =>
    refine ⟨[], ?_, fun cookie hcookie => absurd hcookie List.not_mem_nil,
      fun hnone => absurd hsealed (hnone _)⟩
    simp [Decision.cookies, finishCookies_of_resumes hresumes]
  | nobody hresumes huser =>
    refine ⟨[gate.plan.clearSession], ?_, fun cookie => List.mem_singleton.mp, fun _ => ?_⟩
    · simp [Decision.cookies, finishCookies_of_resumes hresumes]
    · simp [spoils_iff_of_resumes hresumes, huser]
  | led hbegins hcallback =>
    obtain ⟨hclear, hne⟩ := gate.refusedCookies_eq record.visit
    refine ⟨_, ?_, hclear, fun _ => hne.trans (spoils_iff_of_begins hbegins).symm⟩
    simp [Decision.cookies, finishCookies, hcallback]
  | admitted hbegins =>
    obtain ⟨hclear, hne⟩ := gate.refusedCookies_eq record.visit
    exact ⟨_, rfl, hclear, fun _ => hne.trans (spoils_iff_of_begins hbegins).symm⟩
  | denied hbegins hsealed =>
    obtain ⟨hclear, hne⟩ := gate.refusedCookies_eq record.visit
    refine ⟨_, ?_, hclear, fun _ => hne.trans (spoils_iff_of_begins hbegins).symm⟩
    rw [keptCookies_of_none hsealed, List.append_nil]
    rfl

/-! ### What stands under the two names -/

/-- What stands under a name in the browser before a visit. -/
def valueBefore? (record : Record) (name : String) : Option String :=
  NameMap.get? record.visit.cookies name

/-- What stands under a name when the browser has done what a decision tells. -/
def valueAfter? (record : Record) (decision : Decision) (name : String) : Option String :=
  NameMap.get? (CookieJar.applyAll record.visit.cookies decision.cookies) name

theorem isDeletion_state (gate : Gate) (record : Record) (attempt : LoginAttempt) :
    (gate.plan.state (gate.iv record) attempt).isDeletion = false := by
  have hvalue : (attempt.toCookieValue gate.settings.key (gate.iv record)).isEmpty = false :=
    CookieCipher.encrypt_ne_empty _ (length_iv gate record) _
  rw [Cookie.isDeletion, CookiePlan.state, CookiePlan.stateCookie, ← settings]
  simp only [hvalue]
  rfl

theorem name_of_mem_keptCookies {cookie : Cookie} (h : cookie ∈ gate.keptCookies record) :
    (∃ session, gate.sealed? record = some (.session session) ∧
      cookie.name = gate.settings.cookieName) ∨
      ∃ attempt, gate.sealed? record = some (.attempt attempt) ∧
        cookie.name = gate.settings.stateCookieName := by
  rw [keptCookies, Option.mem_toList, Option.map_eq_some_iff] at h
  obtain ⟨content, hsealed, rfl⟩ := h
  cases content with
  | session session => exact .inl ⟨session, hsealed, rfl⟩
  | attempt attempt => exact .inr ⟨attempt, hsealed, rfl⟩

section Values

variable (hclosed : gate.settings.isBypassed record.visit.path = false)
  (h : (gate.outcome record).result = .ok decision)

include hclosed h

/-- A session that is encrypted stands under the name for sessions. -/
theorem valueAfter?_of_sealed_session (hage : 0 < gate.settings.cookieMaxAgeSeconds)
    {session : Session} (hsealed : gate.sealed? record = some (.session session)) :
    valueAfter? record decision gate.settings.cookieName =
      some (gate.valueOf record (.session session)) := by
  obtain ⟨discarded, hcookies, -⟩ := exists_cookies_eq hclosed h
  have hkept : gate.keptCookies record = [gate.keepSession record.memory.draws session] :=
    keptCookies_of_some hsealed
  have hdeletion : (gate.keepSession record.memory.draws session).isDeletion = false := by
    rw [isDeletion_keepSession, beq_eq_false_iff_ne]
    omega
  rw [hkept] at hcookies
  rw [valueAfter?, hcookies]
  refine (CookieJar.get?_applyAll_concat _ _ (gate.keepSession _ session)).trans ?_
  rw [hdeletion, if_neg Bool.false_ne_true]
  rfl

/-- Where no session is encrypted, the name for sessions is empty if the session at hand is of no
use, and else as it was. -/
theorem valueAfter?_of_not_sealed_session
    (hnone : ∀ session, gate.sealed? record ≠ some (.session session)) :
    (gate.Spoils record → valueAfter? record decision gate.settings.cookieName = none) ∧
      (¬ gate.Spoils record → valueAfter? record decision gate.settings.cookieName =
        valueBefore? record gate.settings.cookieName) := by
  obtain ⟨discarded, hcookies, hclear, hspoils⟩ := exists_cookies_eq hclosed h
  have hnames := gate.settings.stateCookieName_ne
  have hother : ∀ cookie ∈ gate.finishCookies record.visit ++ gate.keptCookies record,
      cookie.name ≠ gate.settings.cookieName := by
    intro cookie hcookie
    rcases List.mem_append.mp hcookie with hcookie | hcookie
    · rw [(gate.finishCookies_eq record.visit).1 cookie hcookie]
      exact hnames
    · rcases name_of_mem_keptCookies hcookie with ⟨session, hsealed, -⟩ | ⟨attempt, -, hname⟩
      · exact absurd hsealed (hnone session)
      · rw [hname]
        exact hnames
  rw [valueAfter?, hcookies, List.append_assoc, CookieJar.applyAll_append,
    CookieJar.get?_applyAll_of_ne hother, ← hspoils hnone]
  constructor
  · intro hne
    exact CookieJar.get?_applyAll_of_eq_deletion gate.plan.clearSession rfl hne hclear
  · intro hnil
    rw [Classical.not_not.mp hnil]
    rfl

/-- A login attempt that is encrypted stands under the name for login attempts. -/
theorem valueAfter?_of_sealed_attempt {attempt : LoginAttempt}
    (hsealed : gate.sealed? record = some (.attempt attempt)) :
    valueAfter? record decision gate.settings.stateCookieName =
      some (gate.valueOf record (.attempt attempt)) := by
  obtain ⟨discarded, hcookies, -⟩ := exists_cookies_eq hclosed h
  have hkept : gate.keptCookies record = [gate.plan.state (gate.iv record) attempt] :=
    keptCookies_of_some hsealed
  rw [hkept] at hcookies
  rw [valueAfter?, hcookies]
  refine (CookieJar.get?_applyAll_concat _ _ (gate.plan.state _ attempt)).trans ?_
  rw [isDeletion_state, if_neg Bool.false_ne_true]
  rfl

/-- Where no login attempt is encrypted, the name for login attempts is empty if one is ended, and
else as it was. -/
theorem valueAfter?_of_not_sealed_attempt
    (hnone : ∀ attempt, gate.sealed? record ≠ some (.attempt attempt)) :
    valueAfter? record decision gate.settings.stateCookieName =
      if gate.finishCookies record.visit ≠ [] then none
      else valueBefore? record gate.settings.stateCookieName := by
  obtain ⟨discarded, hcookies, hclear, -⟩ := exists_cookies_eq hclosed h
  have hnames := gate.settings.stateCookieName_ne
  have hbefore : ∀ cookie ∈ discarded, cookie.name ≠ gate.settings.stateCookieName := by
    intro cookie hcookie
    rw [hclear cookie hcookie]
    exact hnames.symm
  have hafter : ∀ cookie ∈ gate.keptCookies record,
      cookie.name ≠ gate.settings.stateCookieName := by
    intro cookie hcookie
    rcases name_of_mem_keptCookies hcookie with ⟨session, -, hname⟩ | ⟨attempt, hsealed, -⟩
    · rw [hname]
      exact hnames.symm
    · exact absurd hsealed (hnone attempt)
  rw [valueAfter?, hcookies, CookieJar.applyAll_append, CookieJar.get?_applyAll_of_ne hafter,
    CookieJar.applyAll_append]
  split
  · rename_i hne
    exact CookieJar.get?_applyAll_of_eq_deletion gate.plan.clearState rfl hne
      (gate.finishCookies_eq record.visit).1
  · rename_i hnil
    rw [Classical.not_not.mp hnil]
    exact CookieJar.get?_applyAll_of_ne hbefore

end Values

/-! ### Ways to the provider -/

/-- A decision leads to the provider, at the address where users log in. -/
def LeadsToProvider (gate : Gate) (decision : Decision) : Prop :=
  ∃ more cookies, decision = .redirect (gate.authorizationUrl more) cookies false

/-- On the way to the provider a login attempt is encrypted where attempts are bound, and none is
ended. -/
theorem sealed_of_leads (h : (gate.outcome record).result = .ok decision)
    (hleads : gate.LeadsToProvider decision) :
    gate.sealed? record = gate.sealedByLogin? record.memory.draws ∧
      gate.isCallback record.visit = false := by
  obtain ⟨more, cookies, hdecision⟩ := hleads
  cases ends_of_result h with
  | nobody hresumes _ hsealed =>
    refine ⟨hsealed, ?_⟩
    rw [isCallback, lacksSession_of_resumes hresumes]
    rfl
  | led _ hcallback hsealed => exact ⟨hsealed, hcallback⟩
  | passed | forwarded | renewed | admitted | denied => simp at hdecision

/-- A login attempt is encrypted exactly on the way to the provider, where attempts are bound. -/
theorem exists_sealed_attempt_iff (h : (gate.outcome record).result = .ok decision) :
    (∃ attempt, gate.sealed? record = some (.attempt attempt)) ↔
      gate.usePkce ∧ gate.LeadsToProvider decision := by
  constructor
  · rintro ⟨attempt, hsealed⟩
    obtain ⟨-, cookies, hresult⟩ := sealed_attempt hsealed
    cases h.symm.trans hresult
    have hleads : gate.LeadsToProvider
        (.redirect (gate.authorizationUrl (attemptParameters attempt)) cookies false) :=
      ⟨_, _, rfl⟩
    rw [(sealed_of_leads h hleads).1] at hsealed
    exact ⟨(sealedByLogin?_eq hsealed).1, hleads⟩
  · rintro ⟨hpkce, hleads⟩
    rw [(sealed_of_leads h hleads).1, sealedByLogin?, if_pos hpkce]
    exact ⟨_, rfl⟩

/-- A visit ends a login attempt: the provider leads a user back with a code, and attempts are bound
or the visit brings one. -/
def EndsAttempt (gate : Gate) (visit : Visit) : Prop :=
  gate.isCallback visit ∧
    (gate.usePkce ∨ (visit.cookie? gate.settings.stateCookieName).isSome)

theorem finishCookies_ne_nil_iff (gate : Gate) (visit : Visit) :
    gate.finishCookies visit ≠ [] ↔ gate.EndsAttempt visit :=
  (gate.finishCookies_eq visit).2

/-! ### What a decision does to the two cookies -/

/-- What a decision does to the session that the browser keeps. -/
structure SettlesSession (gate : Gate) (record : Record) (decision : Decision) : Prop where
  /-- A session is told to be kept exactly if the provider names a user in the visit. -/
  told_iff : (∃ cookie ∈ decision.cookies,
      cookie.name = gate.settings.cookieName ∧ cookie.value ≠ "") ↔ gate.NamesUser record
  /-- It is a session of this user, encrypted in the visit, and it is kept in the end. -/
  named : ∀ token profile, gate.Names record token profile → ∃ session : Session,
    session.identity.map .text = profile ∧ session.strategy = gate.settings.idStrategy ∧
      session.toCookieValue gate.settings.key (gate.iv record) ≠ "" ∧
      valueAfter? record decision gate.settings.cookieName =
        some (session.toCookieValue gate.settings.key (gate.iv record))
  /-- Otherwise a session that is of no use is gone. -/
  spoiled : ¬ gate.NamesUser record → gate.Spoils record →
    valueAfter? record decision gate.settings.cookieName = none
  /-- Otherwise nothing changes. -/
  kept : ¬ gate.NamesUser record → ¬ gate.Spoils record →
    valueAfter? record decision gate.settings.cookieName =
      valueBefore? record gate.settings.cookieName

/-- What a decision does to the login attempt that the browser keeps. -/
structure SettlesAttempt (gate : Gate) (record : Record) (decision : Decision) : Prop where
  /-- A login attempt is told to be kept exactly on the way to the provider, where attempts are
  bound. -/
  told_iff : (∃ cookie ∈ decision.cookies,
      cookie.name = gate.settings.stateCookieName ∧ cookie.value ≠ "") ↔
    gate.usePkce ∧ gate.LeadsToProvider decision
  /-- It is a fresh one, encrypted in the visit, and it is kept in the end. -/
  fresh : gate.usePkce → gate.LeadsToProvider decision →
    valueAfter? record decision gate.settings.stateCookieName =
      some ((gate.nextAttempt record.memory.draws).toCookieValue gate.settings.key
        (gate.iv record))
  /-- There is none in the end exactly if the visit ends one, or there was none and none is told to
  be kept. -/
  gone_iff : valueAfter? record decision gate.settings.stateCookieName = none ↔
    gate.EndsAttempt record.visit ∨
      (valueBefore? record gate.settings.stateCookieName = none ∧
        ¬ (gate.usePkce ∧ gate.LeadsToProvider decision))
  /-- Otherwise nothing changes. -/
  kept : ¬ (gate.usePkce ∧ gate.LeadsToProvider decision) → ¬ gate.EndsAttempt record.visit →
    valueAfter? record decision gate.settings.stateCookieName =
      valueBefore? record gate.settings.stateCookieName

/-- A cookie has one of the two names, and the browser sends it to the gate's host on every path and
shows it to no script. -/
structure Shapes (gate : Gate) (cookie : Cookie) : Prop where
  name : cookie.name = gate.settings.cookieName ∧ cookie.sameSite = .strict ∨
    cookie.name = gate.settings.stateCookieName ∧ cookie.sameSite = .lax
  path : cookie.path = "/"
  httpOnly : cookie.httpOnly
  domain : cookie.domain = gate.plan.domain
  secure : cookie.secure = gate.settings.cookieIsSecure

theorem shapes_of_tells {cookie : Cookie} (h : gate.Tells record cookie) : gate.Shapes cookie := by
  cases h with
  | forgetSession => exact ⟨.inl ⟨rfl, rfl⟩, rfl, rfl, rfl, rfl⟩
  | forgetAttempt => exact ⟨.inr ⟨rfl, rfl⟩, rfl, rfl, rfl, rfl⟩
  | keepSession => exact ⟨.inl ⟨rfl, rfl⟩, rfl, rfl, rfl, rfl⟩
  | keepAttempt => exact ⟨.inr ⟨rfl, rfl⟩, rfl, rfl, rfl, rfl⟩

/-- What a visit encrypts is told to be kept, under the name for what it is. -/
theorem cookieOf_mem_cookies (hclosed : gate.settings.isBypassed record.visit.path = false)
    (h : (gate.outcome record).result = .ok decision) {content : Sealed}
    (hsealed : gate.sealed? record = some content) :
    gate.cookieOf record.memory.draws content ∈ decision.cookies := by
  obtain ⟨discarded, hcookies, -⟩ := exists_cookies_eq hclosed h
  rw [hcookies, keptCookies_of_some hsealed]
  exact List.mem_append_right _ (List.mem_singleton_self _)

theorem valueOf_ne_empty (gate : Gate) (record : Record) (content : Sealed) :
    gate.valueOf record content ≠ "" := by
  intro hempty
  have hne := CookieCipher.encrypt_ne_empty gate.settings.key (length_iv gate record)
    content.content
  rw [← valueOf, hempty] at hne
  cases hne

theorem settlesSession (hage : 0 < gate.settings.cookieMaxAgeSeconds)
    (hclosed : gate.settings.isBypassed record.visit.path = false)
    (h : (gate.outcome record).result = .ok decision) :
    gate.SettlesSession record decision where
  told_iff := by
    rw [namesUser_iff h]
    constructor
    · rintro ⟨cookie, hcookie, hname, hvalue⟩
      obtain ⟨session, hsealed, -⟩ := (tells_of_mem_cookies h hcookie).exists_session hname hvalue
      exact ⟨session, hsealed⟩
    · rintro ⟨session, hsealed⟩
      exact ⟨_, cookieOf_mem_cookies hclosed h hsealed, rfl,
        valueOf_ne_empty gate record (.session session)⟩
  named := by
    intro token profile hnames
    obtain ⟨session, hsealed, hidentity⟩ := exists_sealed_of_names h hnames
    exact ⟨session, hidentity, strategy_of_sealed_session hsealed,
      valueOf_ne_empty gate record (.session session),
      valueAfter?_of_sealed_session hclosed h hage hsealed⟩
  spoiled := by
    intro hnobody
    rw [namesUser_iff h, not_exists] at hnobody
    exact (valueAfter?_of_not_sealed_session hclosed h hnobody).1
  kept := by
    intro hnobody
    rw [namesUser_iff h, not_exists] at hnobody
    exact (valueAfter?_of_not_sealed_session hclosed h hnobody).2

theorem settlesAttempt (hclosed : gate.settings.isBypassed record.visit.path = false)
    (h : (gate.outcome record).result = .ok decision) :
    gate.SettlesAttempt record decision where
  told_iff := by
    rw [← exists_sealed_attempt_iff h]
    constructor
    · rintro ⟨cookie, hcookie, hname, hvalue⟩
      exact (tells_of_mem_cookies h hcookie).exists_attempt hname hvalue
    · rintro ⟨attempt, hsealed⟩
      exact ⟨_, cookieOf_mem_cookies hclosed h hsealed, rfl,
        valueOf_ne_empty gate record (.attempt attempt)⟩
  fresh := by
    intro hpkce hleads
    have hsealed := (sealed_of_leads h hleads).1
    rw [sealedByLogin?, if_pos hpkce] at hsealed
    exact valueAfter?_of_sealed_attempt hclosed h hsealed
  gone_iff := by
    rw [← exists_sealed_attempt_iff h]
    by_cases hsealed : ∃ attempt, gate.sealed? record = some (.attempt attempt)
    · have hleads := ((exists_sealed_attempt_iff h).mp hsealed).2
      have hcallback := (sealed_of_leads h hleads).2
      obtain ⟨attempt, hattempt⟩ := hsealed
      simp [valueAfter?_of_sealed_attempt hclosed h hattempt, EndsAttempt, hcallback, hattempt]
    · rw [valueAfter?_of_not_sealed_attempt hclosed h (not_exists.mp hsealed),
        ← finishCookies_ne_nil_iff]
      split <;> simp_all
  kept := by
    intro hled hgoes
    rw [← exists_sealed_attempt_iff h, not_exists] at hled
    rw [valueAfter?_of_not_sealed_attempt hclosed h hled, if_neg]
    rwa [finishCookies_ne_nil_iff]

/-- Every decision for a path that is not open to everybody settles what the browser keeps: a
session of the user whom the provider names in the visit, or else no session that is of no use; and
a fresh login attempt on the way to the provider, or else none that the visit has ended. It gives
no other cookies, and none that is shaped differently. -/
theorem settles_cookies {settings : Settings}
    (hcheck : settings.check gate.platform = .ok gate.settings)
    (hclosed : gate.settings.isBypassed record.visit.path = false)
    (hdecision : (gate.outcome record).result = .ok decision) :
    gate.SettlesSession record decision ∧ gate.SettlesAttempt record decision ∧
      ∀ cookie ∈ decision.cookies, gate.Shapes cookie :=
  ⟨settlesSession (Settings.maxAge_pos_of_check hcheck) hclosed hdecision,
    settlesAttempt hclosed hdecision,
    fun _ hcookie => shapes_of_tells (tells_of_mem_cookies hdecision hcookie)⟩

/-- A user is led into the site with a session. The provider names the user in this visit, so the
session is kept; there was no login attempt, and none is told to be kept. -/
theorem settles_cookies_after_login :
    ∃ decision, ((sampleGate false).outcome sampleCallback).result = .ok decision ∧
      (sampleGate false).NamesUser sampleCallback ∧
      (sampleGate false).SettlesSession sampleCallback decision ∧
      (sampleGate false).SettlesAttempt sampleCallback decision ∧
      ∀ cookie ∈ decision.cookies, (sampleGate false).Shapes cookie :=
  ⟨_, result_sampleCallback,
    (namesUser_iff result_sampleCallback).mpr ⟨sampleSession, sealed_sampleCallback⟩,
    settles_cookies check_sampleSettings rfl result_sampleCallback⟩

end Gate

end LoginGate
