import LoginGate.Proofs.Gate.Aftermath
import LoginGate.Proofs.Gate.Contact
import LoginGate.Proofs.Gate.Publication
import Mathlib.Data.List.Forall2
import Mathlib.Data.List.Intervals

/-!
# Random pieces are drawn once

An initialisation vector that serves twice tells how two messages differ and lets others forge more
of them, and a state or a code verifier that serves twice lets one login pass for another. The gate
has no list of what it has drawn, only a count for each size. So every visit has to leave the counts
behind the pieces that it has drawn, also where it fails.

## Main definitions

* `Purpose` : what a random piece is for.
* `Gate.taken` : the pieces that are drawn in a visit.
* `Gate.givenCookies` : the cookies with a value that browsers are given in a run.
* `Gate.withEntropy` : the gate with another source of random bytes.
* `Gate.DrawsOnce` : what is said of the draws of a run.

## Main results

* `Gate.flatMap_taken` : the pieces of a run are drawn in order.
* `Gate.forall₂_taken_givenCookies` : each initialisation vector is for one cookie.
* `Gate.run_withEntropy` : a run depends on no other pieces.
* `Gate.draws_once` : no piece is drawn twice.
-/

namespace LoginGate

/-- What a random piece is for. -/
inductive Purpose where
  /-- The initialisation vector of a ciphertext. -/
  | iv
  /-- The code verifier of a login attempt. -/
  | verifier
  /-- The state of a login attempt. -/
  | state
  deriving DecidableEq, Repr

/-- How many bytes a piece has. -/
def Purpose.size : Purpose → Nat
  | .iv => 12
  | .verifier => 64
  | .state => 16

/-- How many pieces have been drawn for a purpose. -/
def Draws.count (draws : Draws) : Purpose → Nat
  | .iv => draws.ivs
  | .verifier => draws.verifiers
  | .state => draws.states

/-- The cookies with a value that the browser is given: none without a decision. -/
def Outcome.givenCookies (outcome : Outcome) : List Cookie :=
  match outcome.result with
  | .ok decision => decision.cookies.filter (·.value ≠ "")
  | .error _ => []

namespace Gate

variable {gate : Gate} {record : Record} {memory : GateMemory} {decision : Decision}
  {content : Sealed} {purpose : Purpose}

/-! ### The pieces that are drawn -/

/-- The numbers of the pieces that are drawn in a visit for a purpose. -/
def taken (gate : Gate) (purpose : Purpose) (record : Record) : List Nat :=
  List.Ico (record.memory.draws.count purpose) ((gate.outcome record).memory.draws.count purpose)

theorem count_le_outcome (gate : Gate) (purpose : Purpose) (record : Record) :
    record.memory.draws.count purpose ≤ (gate.outcome record).memory.draws.count purpose := by
  rw [draws_outcome]
  cases gate.sealed? record with
  | none => exact Nat.le_refl _
  | some content =>
    cases content <;> cases purpose <;>
      simp [drawsFor, Draws.count, afterSession, afterAttempt]

theorem count_le_memoryAfter (gate : Gate) (purpose : Purpose) (memory : GateMemory)
    (visits : List (Moment × Visit)) :
    memory.draws.count purpose ≤ (gate.memoryAfter memory visits).draws.count purpose := by
  induction visits generalizing memory with
  | nil => exact Nat.le_refl _
  | cons visit visits ih =>
    rw [memoryAfter_cons]
    exact (gate.count_le_outcome purpose ⟨memory, visit.1, visit.2⟩).trans (ih _)

/-- The pieces of a run are drawn in order, from the count before it up to the count after it. -/
theorem flatMap_taken (gate : Gate) (purpose : Purpose) (memory : GateMemory)
    (visits : List (Moment × Visit)) :
    (gate.history memory visits).flatMap (gate.taken purpose) =
      List.Ico (memory.draws.count purpose)
        ((gate.memoryAfter memory visits).draws.count purpose) := by
  induction visits generalizing memory with
  | nil => exact List.Ico.self_empty.symm
  | cons visit visits ih =>
    rw [history, List.flatMap_cons, ih, memoryAfter_cons]
    exact List.Ico.append_consecutive (gate.count_le_outcome purpose _)
      (gate.count_le_memoryAfter purpose _ visits)

theorem taken_of_none (h : gate.sealed? record = none) : gate.taken purpose record = [] := by
  rw [taken, draws_outcome, h]
  exact List.Ico.self_empty

/-- To encrypt anything takes one initialisation vector. -/
theorem taken_iv_of_some (h : gate.sealed? record = some content) :
    gate.taken .iv record = [record.memory.draws.ivs] := by
  rw [taken, draws_outcome, h]
  cases content <;> exact List.Ico.succ_singleton

/-- A login attempt takes one piece of each size. -/
theorem taken_of_attempt {attempt : LoginAttempt}
    (h : gate.sealed? record = some (.attempt attempt)) :
    gate.taken purpose record = [record.memory.draws.count purpose] := by
  rw [taken, draws_outcome, h]
  cases purpose <;> exact List.Ico.succ_singleton

/-- Without a login attempt, nothing but an initialisation vector is drawn. -/
theorem taken_of_not_attempt (h : ∀ attempt, gate.sealed? record ≠ some (.attempt attempt))
    (hpurpose : purpose ≠ .iv) : gate.taken purpose record = [] := by
  cases hsealed : gate.sealed? record with
  | none => exact taken_of_none hsealed
  | some content =>
    cases content with
    | attempt attempt => exact absurd hsealed (h attempt)
    | session session =>
      rw [taken, draws_outcome, hsealed]
      cases purpose with
      | iv => exact absurd rfl hpurpose
      | verifier | state => exact List.Ico.self_empty

/-! ### The cookies that are given -/

/-- The cookies with a value that browsers are given in a run. -/
def givenCookies (gate : Gate) (memory : GateMemory) (visits : List (Moment × Visit)) :
    List Cookie :=
  (gate.run memory visits).flatMap Outcome.givenCookies

/-- Nothing is encrypted where the path is open to everybody. -/
theorem sealed?_of_bypassed (h : gate.settings.isBypassed record.visit.path) :
    gate.sealed? record = none := by
  rw [sealed?, course, if_pos h]

/-- A visit without a decision has encrypted nothing. -/
theorem sealed?_of_error (hsize : record.memory.groups.canRecord) {breakdown : Breakdown}
    (h : (gate.outcome record).result = .error breakdown) : gate.sealed? record = none := by
  cases hsealed : gate.sealed? record with
  | none => rfl
  | some content =>
    cases content with
    | attempt attempt =>
      obtain ⟨-, cookies, hresult⟩ := sealed_attempt hsealed
      cases h.symm.trans hresult
    | session session =>
      obtain ⟨grant, hgrant, hobtained⟩ := sealed_session hsealed
      rcases (result_eq_error_iff_course hsize).mp h with hstuck | ⟨other, hother, hfailed⟩
      · rw [hstuck] at hgrant
        cases hgrant
      · cases hgrant.symm.trans hother
        cases hobtained.symm.trans hfailed

theorem value_cookieOf (gate : Gate) (record : Record) (content : Sealed) :
    (gate.cookieOf record.memory.draws content).value = gate.valueOf record content := by
  cases content <;> rfl

theorem value_ne_empty_of_kept {cookie : Cookie} (h : cookie ∈ gate.keptCookies record) :
    cookie.value ≠ "" := by
  rw [keptCookies, Option.mem_toList, Option.map_eq_some_iff] at h
  obtain ⟨content, -, rfl⟩ := h
  rw [value_cookieOf]
  exact valueOf_ne_empty gate record content

/-- The cookies of a decision with a value are those that keep what is encrypted. -/
theorem filter_cookies (h : (gate.outcome record).result = .ok decision) :
    decision.cookies.filter (·.value ≠ "") = gate.keptCookies record := by
  cases hclosed : gate.settings.isBypassed record.visit.path with
  | true =>
    rw [outcome_of_bypassed hclosed] at h
    cases h
    rw [keptCookies, sealed?_of_bypassed hclosed]
    rfl
  | false =>
    obtain ⟨discarded, hcookies, hclear, -⟩ := exists_cookies_eq hclosed h
    have hdiscarded : discarded.filter (·.value ≠ "") = [] := by
      refine List.filter_eq_nil_iff.mpr fun cookie hcookie => ?_
      rw [hclear cookie hcookie]
      exact Bool.false_ne_true
    have hfinished : (gate.finishCookies record.visit).filter (·.value ≠ "") = [] := by
      refine List.filter_eq_nil_iff.mpr fun cookie hcookie => ?_
      rw [(gate.finishCookies_eq record.visit).1 cookie hcookie]
      exact Bool.false_ne_true
    have hkept : (gate.keptCookies record).filter (·.value ≠ "") = gate.keptCookies record :=
      List.filter_eq_self.mpr fun _ hcookie => decide_eq_true (value_ne_empty_of_kept hcookie)
    rw [hcookies, List.filter_append, List.filter_append, hdiscarded, hfinished, hkept]
    rfl

/-- A visit gives the cookies that keep what is encrypted, also where there is no decision. -/
theorem givenCookies_outcome (hsize : record.memory.groups.canRecord) :
    (gate.outcome record).givenCookies = gate.keptCookies record := by
  cases hresult : (gate.outcome record).result with
  | ok decision =>
    rw [Outcome.givenCookies, hresult]
    exact filter_cookies hresult
  | error breakdown =>
    rw [Outcome.givenCookies, hresult, keptCookies_of_none (sealed?_of_error hsize hresult)]

/-- The value of a cookie is encrypted under an initialisation vector. -/
def EncryptedUnder (gate : Gate) (index : Nat) (cookie : Cookie) : Prop :=
  ∃ content, cookie.value =
    CookieCipher.encrypt gate.settings.key (gate.entropy.piece Purpose.iv.size index) content

/-- The initialisation vectors that a visit draws are those of the cookies that it gives. -/
theorem forall₂_taken_outcome (hsize : record.memory.groups.canRecord) :
    List.Forall₂ gate.EncryptedUnder (gate.taken .iv record)
      (gate.outcome record).givenCookies := by
  rw [givenCookies_outcome hsize]
  cases hsealed : gate.sealed? record with
  | none =>
    rw [taken_of_none hsealed, keptCookies_of_none hsealed]
    exact .nil
  | some content =>
    rw [taken_iv_of_some hsealed, keptCookies_of_some hsealed]
    exact .cons ⟨content.content, value_cookieOf gate record content⟩ .nil

/-- The initialisation vectors that a run draws are those of the cookies that it gives, one for each
and in the same order. -/
theorem forall₂_taken_givenCookies (hsize : memory.groups.canRecord)
    (visits : List (Moment × Visit)) :
    List.Forall₂ gate.EncryptedUnder ((gate.history memory visits).flatMap (gate.taken .iv))
      (gate.givenCookies memory visits) := by
  -- The induction is on the visits; that the cache has room is what each of them keeps.
  induction visits generalizing memory with
  | nil => exact .nil
  | cons visit visits ih =>
    have hfirst := @forall₂_taken_outcome gate ⟨memory, visit.1, visit.2⟩ hsize
    have hnext := @canRecord_outcome gate ⟨memory, visit.1, visit.2⟩ hsize
    rw [history, givenCookies, run, List.flatMap_cons, List.flatMap_cons]
    exact List.rel_append hfirst (ih hnext)

/-! ### Login attempts -/

/-- A visit leads to the provider with a login attempt that is bound. -/
def BindsAttempt (gate : Gate) (record : Record) : Prop :=
  gate.usePkce ∧ ∃ decision, (gate.outcome record).result = .ok decision ∧
    gate.LeadsToProvider decision

theorem bindsAttempt_iff :
    gate.BindsAttempt record ↔ ∃ attempt, gate.sealed? record = some (.attempt attempt) := by
  constructor
  · rintro ⟨hpkce, decision, hresult, hleads⟩
    exact (exists_sealed_attempt_iff hresult).mpr ⟨hpkce, hleads⟩
  · rintro ⟨attempt, hsealed⟩
    obtain ⟨-, cookies, hresult⟩ := sealed_attempt hsealed
    obtain ⟨hpkce, hleads⟩ := (exists_sealed_attempt_iff hresult).mp ⟨attempt, hsealed⟩
    exact ⟨hpkce, _, hresult, hleads⟩

/-- The login attempt that is made of two pieces. -/
def attemptOf (gate : Gate) (verifier state : Nat) : LoginAttempt :=
  .ofRandom (gate.entropy.piece Purpose.verifier.size verifier)
    (gate.entropy.piece Purpose.state.size state)

/-- A visit leads to the provider with a login attempt, and the browser is told to keep it. -/
def LeadsWith (gate : Gate) (record : Record) (attempt : LoginAttempt) : Prop :=
  ∃ cookies, (gate.outcome record).result =
      .ok (.redirect (gate.authorizationUrl (attemptParameters attempt)) cookies false) ∧
    gate.cookieOf record.memory.draws (.attempt attempt) ∈ cookies

/-- A bound login attempt is made of the two pieces that are drawn for it. -/
theorem exists_leadsWith_of_bindsAttempt (h : gate.BindsAttempt record) :
    ∃ verifier state, gate.taken .verifier record = [verifier] ∧
      gate.taken .state record = [state] ∧
      gate.LeadsWith record (gate.attemptOf verifier state) := by
  obtain ⟨attempt, hsealed⟩ := bindsAttempt_iff.mp h
  obtain ⟨rfl, cookies, hresult⟩ := sealed_attempt hsealed
  have hclosed : gate.settings.isBypassed record.visit.path = false := by
    rw [Bool.eq_false_iff]
    intro hopen
    cases (sealed?_of_bypassed hopen).symm.trans hsealed
  exact ⟨_, _, taken_of_attempt hsealed, taken_of_attempt hsealed, cookies, hresult,
    cookieOf_mem_cookies hclosed hresult hsealed⟩

theorem taken_of_not_bindsAttempt (h : ¬ gate.BindsAttempt record) (hpurpose : purpose ≠ .iv) :
    gate.taken purpose record = [] := by
  rw [bindsAttempt_iff, not_exists] at h
  exact taken_of_not_attempt h hpurpose

/-! ### Pieces that are not drawn -/

/-- The gate with another source of random bytes. -/
def withEntropy (gate : Gate) (entropy : Entropy) : Gate := { gate with entropy }

/-- A source has the same piece as the gate's, for every purpose, where the counts stand. -/
def AgreesAt (gate : Gate) (entropy : Entropy) (draws : Draws) : Prop :=
  ∀ purpose : Purpose, entropy.piece purpose.size (draws.count purpose) =
    gate.entropy.piece purpose.size (draws.count purpose)

/-- A source has the same pieces as the gate's, among those that are drawn in a visit. -/
def AgreesOn (gate : Gate) (entropy : Entropy) (record : Record) : Prop :=
  ∀ purpose, ∀ index ∈ gate.taken purpose record,
    entropy.piece purpose.size index = gate.entropy.piece purpose.size index

section Entropy

variable {entropy : Entropy}

theorem agreesAt_of_attempt (h : gate.AgreesOn entropy record) {attempt : LoginAttempt}
    (hsealed : gate.sealed? record = some (.attempt attempt)) :
    gate.AgreesAt entropy record.memory.draws := by
  intro purpose
  refine h purpose _ ?_
  rw [taken_of_attempt hsealed]
  exact List.mem_singleton_self _

theorem keepSession_withEntropy (h : gate.AgreesOn entropy record) {session : Session}
    (hsealed : gate.sealed? record = some (.session session)) :
    (gate.withEntropy entropy).keepSession record.memory.draws session =
      gate.keepSession record.memory.draws session := by
  have hiv : entropy.iv record.memory.draws.ivs = gate.entropy.iv record.memory.draws.ivs := by
    refine h .iv _ ?_
    rw [taken_iv_of_some hsealed]
    exact List.mem_singleton_self _
  exact congrArg (gate.plan.session · session) hiv

/-- Nothing random stands in the address but what the provider is told besides. -/
theorem authorizationUrl_withEntropy (gate : Gate) (entropy : Entropy) (more : NameMap) :
    (gate.withEntropy entropy).authorizationUrl more = gate.authorizationUrl more := rfl

theorem leadToProvider_withEntropy
    (h : ∀ attempt, gate.sealedByLogin? memory.draws = some (.attempt attempt) →
      gate.AgreesAt entropy memory.draws) (cookies : List Cookie) :
    (gate.withEntropy entropy).leadToProvider memory cookies =
      gate.leadToProvider memory cookies := by
  have hmode : (gate.withEntropy entropy).usePkce = gate.usePkce := rfl
  simp only [leadToProvider, hmode, authorizationUrl_withEntropy]
  split
  · rename_i hpkce
    have hagrees := h _ (if_pos hpkce)
    have hattempt : (gate.withEntropy entropy).nextAttempt memory.draws =
        gate.nextAttempt memory.draws :=
      congrArg₂ LoginAttempt.ofRandom (hagrees .verifier) (hagrees .state)
    have hiv : (gate.withEntropy entropy).entropy.iv memory.draws.ivs =
        gate.entropy.iv memory.draws.ivs := hagrees .iv
    rw [hattempt, hiv]
    rfl
  · rfl

theorem forward_withEntropy {session : Session}
    (h : ∀ attempt, gate.sealedByForward? memory.draws session = some (.attempt attempt) →
      gate.AgreesAt entropy memory.draws) (now : Instant) (cookies : List Cookie) :
    (gate.withEntropy entropy).forward now memory session cookies =
      gate.forward now memory session cookies := by
  rw [Gate.forward, Gate.forward]
  cases huser : session.userId? with
  | some userId => rfl
  | none =>
    refine leadToProvider_withEntropy (fun attempt hsealed => h attempt ?_) _
    rw [sealedByForward?, huser]
    exact hsealed

/-- Tokens are asked for and accepted without anything random. -/
theorem obtain_withEntropy (gate : Gate) (entropy : Entropy) (moment : Moment)
    (keys : Jwt.KeyStore) (grant : Grant) (previous : Option String) :
    (gate.withEntropy entropy).obtain moment keys grant previous =
      gate.obtain moment keys grant previous := rfl

theorem renew_withEntropy (h : gate.AgreesOn entropy record) {session : Session}
    (hcourse : gate.course record.moment.now record.visit = .renew session) :
    (gate.withEntropy entropy).renew record.moment record.memory session =
      gate.renew record.moment record.memory session := by
  rw [renew, renew, obtain_withEntropy]
  cases hresult : (gate.obtain record.moment record.memory.keys
      (.refresh (session.refreshToken.getD "")) session.refreshToken).result with
  | ok renewed =>
    have hsealed : gate.sealed? record = some (.session renewed) := by
      simp only [sealed?, hcourse, obtained, hresult]
    obtain ⟨token, hmade⟩ := madeOf_of_obtain hresult
    simp only [keepSession_withEntropy h hsealed]
    rw [forward_withEntropy]
    intro attempt hattempt
    rw [sealedByForward?, if_pos hmade.user] at hattempt
    cases hattempt
  | error failure =>
    cases failure with
    | breakdown breakdown => rfl
    | fault fault =>
      have hsealed : gate.sealed? record =
          gate.sealedByForward? record.memory.draws session := by
        simp only [sealed?, hcourse, obtained, hresult]
      dsimp only
      rw [forward_withEntropy]
      · rfl
      · intro attempt hattempt
        exact agreesAt_of_attempt h (hsealed.trans hattempt)

theorem exchange_withEntropy (h : gate.AgreesOn entropy record) {code : String}
    {verifier : Option String} {cookies : List Cookie}
    (hcourse : gate.course record.moment.now record.visit = .exchange code verifier cookies) :
    (gate.withEntropy entropy).exchange record.moment record.memory code verifier cookies =
      gate.exchange record.moment record.memory code verifier cookies := by
  rw [exchange, exchange, obtain_withEntropy]
  cases hresult : (gate.obtain record.moment record.memory.keys (.code code verifier) none).result
      with
  | ok session =>
    have hsealed : gate.sealed? record = some (.session session) := by
      simp only [sealed?, hcourse, obtained, hresult]
    simp only [keepSession_withEntropy h hsealed]
    rfl
  | error failure => cases failure <;> rfl

/-- What comes of a visit depends on no pieces but those that it draws. -/
theorem outcome_withEntropy (h : gate.AgreesOn entropy record) :
    (gate.withEntropy entropy).outcome record = gate.outcome record := by
  have hsame : (gate.withEntropy entropy).course record.moment.now record.visit =
      gate.course record.moment.now record.visit := rfl
  rw [outcome, outcome, step, step, hsame]
  cases hcourse : gate.course record.moment.now record.visit with
  | pass | deny fault cookies | stuck breakdown => rfl
  | forward session cookies =>
    have hsealed : gate.sealed? record = gate.sealedByForward? record.memory.draws session := by
      rw [sealed?, hcourse]
    exact forward_withEntropy
      (fun _ hattempt => agreesAt_of_attempt h (hsealed.trans hattempt)) _ cookies
  | renew session => exact renew_withEntropy h hcourse
  | exchange code verifier cookies => exact exchange_withEntropy h hcourse
  | login cookies =>
    have hsealed : gate.sealed? record = gate.sealedByLogin? record.memory.draws := by
      rw [sealed?, hcourse]
    exact leadToProvider_withEntropy
      (fun _ hattempt => agreesAt_of_attempt h (hsealed.trans hattempt)) cookies

/-- A run depends on no pieces but those that it draws. -/
theorem run_withEntropy {visits : List (Moment × Visit)}
    (h : ∀ record ∈ gate.history memory visits, gate.AgreesOn entropy record) :
    (gate.withEntropy entropy).run memory visits = gate.run memory visits := by
  induction visits generalizing memory with
  | nil => rfl
  | cons visit visits ih =>
    obtain ⟨moment, visit⟩ := visit
    rw [history, List.forall_mem_cons] at h
    have hfirst := outcome_withEntropy h.1
    simp only [outcome] at hfirst
    rw [run, run, hfirst, ih h.2]

end Entropy

/-! ### A login that is tried again -/

/-- A user is led to the provider, comes back without the login attempt, and is led there again. -/
def sampleRetriedVisits : List (Moment × Visit) :=
  [(sampleLogin.moment, sampleLogin.visit),
    (⟨1, .none "", []⟩, { path := "/callback", query := [("code", "c")] }),
    (sampleLogin.moment, sampleLogin.visit)]

theorem draws_sampleRetriedVisits :
    ((sampleGate true).memoryAfter {} sampleRetriedVisits).draws = ⟨2, 2, 2⟩ := rfl

/-! ### Runs -/

/-- What is said of the random pieces that are drawn in a run. -/
structure DrawsOnce (gate : Gate) (memory : GateMemory) (visits : List (Moment × Visit)) :
    Prop where
  /-- No piece is drawn twice. -/
  once : ∀ purpose, ((gate.history memory visits).flatMap (gate.taken purpose)).Nodup
  /-- The counts after the run tell how many have been drawn in it. -/
  counted : ∀ purpose, (gate.memoryAfter memory visits).draws.count purpose =
    memory.draws.count purpose +
      ((gate.history memory visits).flatMap (gate.taken purpose)).length
  /-- The initialisation vectors are those of the cookies with a value, one for each and in the same
  order. -/
  vectors : List.Forall₂ gate.EncryptedUnder
    ((gate.history memory visits).flatMap (gate.taken .iv)) (gate.givenCookies memory visits)
  /-- On the way to the provider with a bound login attempt, one code verifier and one state are
  drawn, and the attempt is made of them. -/
  bound : ∀ record ∈ gate.history memory visits, gate.BindsAttempt record →
    ∃ verifier state, gate.taken .verifier record = [verifier] ∧
      gate.taken .state record = [state] ∧
      gate.LeadsWith record (gate.attemptOf verifier state)
  /-- Everywhere else, none is drawn. -/
  unbound : ∀ record ∈ gate.history memory visits, ¬ gate.BindsAttempt record →
    gate.taken .verifier record = [] ∧ gate.taken .state record = []
  /-- The run depends on no other pieces: with others in their place it is the same. -/
  alone : ∀ entropy, (∀ record ∈ gate.history memory visits, gate.AgreesOn entropy record) →
    (gate.withEntropy entropy).run memory visits = gate.run memory visits

/-- In a run no random piece is drawn twice. Each cookie with a value has an initialisation vector
of its own, each bound login attempt has a code verifier and a state of its own, and nothing else is
drawn, also where visits fail in between. -/
theorem draws_once (gate : Gate) (hsize : memory.groups.canRecord)
    (visits : List (Moment × Visit)) : gate.DrawsOnce memory visits where
  once purpose := by
    rw [flatMap_taken]
    exact List.Ico.nodup _ _
  counted purpose := by
    rw [flatMap_taken, List.Ico.length]
    exact (Nat.add_sub_of_le (gate.count_le_memoryAfter purpose memory visits)).symm
  vectors := forall₂_taken_givenCookies hsize visits
  bound _ _ hbinds := exists_leadsWith_of_bindsAttempt hbinds
  unbound _ _ hfree :=
    ⟨taken_of_not_bindsAttempt hfree nofun, taken_of_not_bindsAttempt hfree nofun⟩
  alone _ hagrees := run_withEntropy hagrees

/-- Two logins draw two pieces of each size, and the denied visit between them draws none. -/
theorem draws_once_of_retried_login :
    ({} : GateMemory).groups.canRecord ∧
      ((sampleGate true).memoryAfter {} sampleRetriedVisits).draws = ⟨2, 2, 2⟩ ∧
      (∃ denial cookies, ((sampleGate true).run {} sampleRetriedVisits)[1]?.map (·.result) =
        some (.ok (.deny denial cookies))) ∧
      (sampleGate true).DrawsOnce {} sampleRetriedVisits :=
  ⟨by decide, draws_sampleRetriedVisits, ⟨_, _, rfl⟩,
    draws_once (sampleGate true) (by decide) sampleRetriedVisits⟩

end Gate

end LoginGate
