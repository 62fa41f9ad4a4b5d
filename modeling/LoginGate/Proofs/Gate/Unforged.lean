import LoginGate.Proofs.Gate.History
import LoginGate.Proofs.Session.Separation

/-!
# Cookie values that nobody has forged

The browser and everybody else may bring any cookie values, old ones, altered ones, and one cookie's
value under the name of the other. What is assumed of the cipher is that nobody but the gate makes
ciphertexts under its key: whatever is decrypted in a visit has been encrypted by the gate in an
earlier one. Then what is taken for a session has been sealed as that session, and what is taken for
a login attempt has been sealed as that attempt.

## Main definitions

* `Gate.openedValues` : the cookie values that are decrypted in a visit.
* `Gate.Unforged` : the assumption on the cipher.

## Main results

* `Gate.exists_opened_session`, `Gate.exists_opened_attempt` : where sessions and login attempts are
  taken from.
* `Gate.Unforged.sealed_of_opened_session`, `Gate.Unforged.sealed_of_opened_attempt` : what has been
  sealed.
-/

namespace LoginGate

/-! ### Values that are accepted -/

/-- A session's cookie value is accepted by its two parts. -/
theorem Session.ofCookieValue_eq_ok {key : CookieKey} {value : String} {session : Session}
    (h : ofCookieValue key value = .ok session) :
    ∃ iv data content, CookieCipher.unframe value = .ok (iv, data) ∧
      Gcm.decrypt? key.roundKeys iv data = some content ∧ ofContent content = .ok session := by
  obtain ⟨content, hcontent, hread⟩ := exists_content_of_ofCookieValue h
  obtain ⟨iv, data, hparts, hdecrypt⟩ := CookieCipher.decrypt_eq_ok_iff_unframe.mp hcontent
  exact ⟨iv, data, content, hparts, hdecrypt, hread⟩

/-- A login attempt's cookie value is accepted by its two parts. -/
theorem LoginAttempt.ofCookieValue_eq_ok {key : CookieKey} {value : String}
    {attempt : LoginAttempt} (h : ofCookieValue key value = .ok attempt) :
    ∃ iv data content, CookieCipher.unframe value = .ok (iv, data) ∧
      Gcm.decrypt? key.roundKeys iv data = some content ∧ ofContent content = .ok attempt := by
  obtain ⟨content, hcontent, hread⟩ := exists_content_of_ofCookieValue h
  obtain ⟨iv, data, hparts, hdecrypt⟩ := CookieCipher.decrypt_eq_ok_iff_unframe.mp hcontent
  exact ⟨iv, data, content, hparts, hdecrypt, hread⟩

/-- A state that comes back is an attempt's if it is there and not empty, and equal. -/
theorem LoginAttempt.matchesState_iff {attempt : LoginAttempt} {received : Option String} :
    attempt.matchesState received ↔ received.filter (!·.isEmpty) = some attempt.state := by
  cases received with
  | none => simp [matchesState]
  | some text =>
    simp only [matchesState, Option.filter_some, Bool.and_eq_true, beq_iff_eq]
    split
    · rename_i h
      simp [h]
    · rename_i h
      simp [h]

namespace Gate

variable {gate : Gate}

/-! ### Values that are decrypted -/

/-- The cookie values that are decrypted in a visit: none where the path is open to everybody, else
that of the session cookie, and that of the state cookie where a bound login attempt is
completed. -/
def openedValues (gate : Gate) (visit : Visit) : List String :=
  if gate.settings.isBypassed visit.path then []
  else
    (visit.cookie? gate.settings.cookieName).toList ++
      if gate.usePkce && gate.isCallback visit then
        (visit.cookie? gate.settings.stateCookieName).toList
      else []

/-- Nobody but the gate encrypts under its key: what is decrypted in a visit comes from an earlier
one. -/
def Unforged (gate : Gate) (memory : GateMemory) (visits : List (Moment × Visit)) : Prop :=
  ∀ past record later, gate.history memory visits = past ++ record :: later →
    ∀ value ∈ gate.openedValues record.visit, ∀ iv data content,
      CookieCipher.unframe value = .ok (iv, data) →
      Gcm.decrypt? gate.settings.key.roundKeys iv data = some content →
      ∃ earlier ∈ past, gate.Encrypts earlier iv data

/-- A login attempt is completed if it stands in the state cookie and its state comes back. -/
theorem completedAttempt_eq_ok_iff {visit : Visit} {attempt : LoginAttempt} :
    gate.completedAttempt visit = .ok attempt ↔
      (∃ value, visit.cookie? gate.settings.stateCookieName = some value ∧
        LoginAttempt.ofCookieValue gate.settings.key value = .ok attempt) ∧
        visit.parameter? "state" = some attempt.state := by
  simp only [completedAttempt]
  cases visit.cookie? gate.settings.stateCookieName with
  | none => simp
  | some value =>
    simp only [Option.some.injEq, exists_eq_left']
    cases LoginAttempt.ofCookieValue gate.settings.key value with
    | error fault => simp
    | ok found =>
      simp only [Except.ok.injEq]
      split
      · rename_i hstate
        rw [Except.ok.injEq]
        refine ⟨?_, fun h => h.1⟩
        rintro rfl
        exact ⟨rfl, LoginAttempt.matchesState_iff.mp hstate⟩
      · rename_i hstate
        simp only [reduceCtorEq, false_iff]
        rintro ⟨rfl, hreceived⟩
        exact hstate (LoginAttempt.matchesState_iff.mpr hreceived)

/-- What is exchanged in a visit is a login attempt in a decrypted value, and the state that came
back is the attempt's. -/
theorem exists_opened_attempt {now : Instant} {visit : Visit} {code : String}
    {verifier : Option String} {cookies : List Cookie} (hpkce : gate.usePkce)
    (h : gate.course now visit = .exchange code verifier cookies) :
    ∃ value ∈ gate.openedValues visit, ∃ attempt,
      LoginAttempt.ofCookieValue gate.settings.key value = .ok attempt ∧
        verifier = some attempt.codeVerifier ∧
        visit.query.get? "state" = some attempt.state := by
  have hexplains := gate.explains_course now visit
  rw [h] at hexplains
  obtain ⟨⟨hclosed, hlacks⟩, herror, hcode, hbound⟩ := hexplains
  obtain ⟨attempt, hattempt, hverifier⟩ := hbound hpkce
  obtain ⟨⟨value, hvalue, hok⟩, hstate⟩ := completedAttempt_eq_ok_iff.mp hattempt
  refine ⟨value, ?_, attempt, hok, hverifier, (Option.filter_eq_some_iff.mp hstate).1⟩
  simp [openedValues, hclosed, hpkce, isCallback, hlacks, herror, hcode, hvalue]

/-- The session that a visit comes with stands in a decrypted value. -/
theorem exists_opened_session {visit : Visit} {session : Session}
    (h : gate.Resumes visit session) :
    ∃ value ∈ gate.openedValues visit,
      Session.ofCookieValue gate.settings.key value = .ok session := by
  obtain ⟨hclosed, value, hcookie, hsession⟩ := h
  exact ⟨value, by simp [openedValues, hclosed, hcookie], hsession⟩

/-! ### What has been sealed -/

section Unforged

variable {memory : GateMemory} {visits : List (Moment × Visit)} {past later : List Record}
  {record : Record} {value : String}

/-- The content of a decrypted value has been sealed in an earlier visit. -/
theorem Unforged.exists_sealed (hunforged : gate.Unforged memory visits)
    (hhistory : gate.history memory visits = past ++ record :: later)
    (hvalue : value ∈ gate.openedValues record.visit) {iv data content : Bytes}
    (hparts : CookieCipher.unframe value = .ok (iv, data))
    (hcontent : Gcm.decrypt? gate.settings.key.roundKeys iv data = some content) :
    ∃ earlier ∈ past, ∃ found, gate.sealed? earlier = some found ∧ found.content = content := by
  obtain ⟨earlier, hearlier, found, hsealed, -, hdata⟩ :=
    hunforged past record later hhistory value hvalue iv data content hparts hcontent
  rw [hdata, Gcm.decrypt?_encrypt] at hcontent
  exact ⟨earlier, hearlier, found, hsealed, Option.some.inj hcontent⟩

/-- What is taken for a session has been sealed as that session. -/
theorem Unforged.sealed_of_opened_session (hunforged : gate.Unforged memory visits)
    (hhistory : gate.history memory visits = past ++ record :: later)
    (hvalue : value ∈ gate.openedValues record.visit) {session : Session}
    (hsession : Session.ofCookieValue gate.settings.key value = .ok session) :
    ∃ earlier ∈ past, gate.sealed? earlier = some (.session session) := by
  obtain ⟨iv, data, content, hparts, hcontent, hread⟩ := Session.ofCookieValue_eq_ok hsession
  obtain ⟨earlier, hearlier, found, hsealed, rfl⟩ :=
    hunforged.exists_sealed hhistory hvalue hparts hcontent
  -- One key serves both cookies, but an attempt's content is no packed one.
  cases found with
  | attempt attempt =>
    rw [Sealed.content, Session.ofContent_text] at hread
    cases hread
  | session found =>
    obtain ⟨token, hmade⟩ := madeOf_of_sealed hsealed
    rw [Sealed.content, Session.ofContent_pack hmade.expiresAt hmade.inRange] at hread
    split at hread <;> cases hread
    exact ⟨earlier, hearlier, hsealed⟩

/-- What is taken for a login attempt has been sealed as that attempt. -/
theorem Unforged.sealed_of_opened_attempt (hunforged : gate.Unforged memory visits)
    (hhistory : gate.history memory visits = past ++ record :: later)
    (hvalue : value ∈ gate.openedValues record.visit) {attempt : LoginAttempt}
    (hattempt : LoginAttempt.ofCookieValue gate.settings.key value = .ok attempt) :
    ∃ earlier ∈ past, gate.sealed? earlier = some (.attempt attempt) := by
  obtain ⟨iv, data, content, hparts, hcontent, hread⟩ := LoginAttempt.ofCookieValue_eq_ok hattempt
  obtain ⟨earlier, hearlier, found, hsealed, rfl⟩ :=
    hunforged.exists_sealed hhistory hvalue hparts hcontent
  cases found with
  | session session =>
    rw [Sealed.content, LoginAttempt.ofContent_pack] at hread
    cases hread
  | attempt found =>
    rw [Sealed.content, LoginAttempt.ofContent_text] at hread
    cases hread
    exact ⟨earlier, hearlier, hsealed⟩

/-- Whoever sends only values that were given to browsers before has forged nothing. -/
theorem unforged_of_returned
    (h : ∀ past record later, gate.history memory visits = past ++ record :: later →
      ∀ value ∈ gate.openedValues record.visit, ∃ earlier ∈ past, ∃ content,
        gate.sealed? earlier = some content ∧ value = gate.valueOf earlier content) :
    gate.Unforged memory visits := by
  intro past record later hhistory value hvalue iv data content hparts hcontent
  obtain ⟨earlier, hearlier, found, hsealed, rfl⟩ := h past record later hhistory value hvalue
  rw [valueOf, CookieCipher.encrypt, CookieCipher.unframe_frame (length_iv gate earlier)
    (CookieCipher.encrypt_ne_nil _ _ _)] at hparts
  cases hparts
  exact ⟨earlier, hearlier, found, hsealed, rfl, rfl⟩

end Unforged

/-! ### A small gate -/

/-- A gate is made of settings whose redirect address has a host, or none. -/
theorem make_of_host {platform : Platform} {settings : CheckedSettings}
    {metadata : ProviderMetadata} {usePkce : Bool} {entropy : Entropy} {host : Option String}
    {verifier : Option Verifier}
    (hhost : (Url.split? settings.redirectUri).map (·.host?) = some host)
    (hverifier : verifierFor platform settings metadata = .ok verifier) :
    make platform settings metadata usePkce entropy =
      .ok ⟨platform, ⟨settings, host⟩, metadata, usePkce, verifier, entropy⟩ := by
  obtain ⟨parts, hparts, rfl⟩ := Option.map_eq_some_iff.mp hhost
  rw [make, CookiePlan.ofSettings?, hparts, hverifier]
  rfl

/-- Settings of a site whose paths are all closed. -/
def sampleSettings : CheckedSettings where
  issuerUri := "https://id.example"
  clientId := "site"
  redirectUri := "https://site.example/callback"
  scope := ["openid", "email"]
  cookieSecret := "0000000000000000"
  clientSecret := some "secret"
  bypassPatterns := []
  key := ⟨List.replicate 16 48, by decide⟩
  bypass := []

/-- What the site's provider publishes. -/
def sampleMetadata : ProviderMetadata where
  issuer := "https://id.example"
  authorizationEndpoint := "https://id.example/login"
  tokenEndpoint := "https://id.example/token"

/-- The site's gate, for which all bytes are zero that should be random. -/
def sampleGate (usePkce : Bool) : Gate where
  platform := .standard
  plan := ⟨sampleSettings, some "site.example"⟩
  metadata := sampleMetadata
  usePkce
  verifier := none
  entropy := ⟨fun _ _ _ => 0⟩

/-- The settings pass their checks. -/
theorem check_sampleSettings : sampleSettings.toSettings.check .standard = .ok sampleSettings := rfl

theorem make_sampleGate (usePkce : Bool) :
    make .standard sampleSettings sampleMetadata usePkce ⟨fun _ _ _ => 0⟩ =
      .ok (sampleGate usePkce) :=
  make_of_host (by decide +kernel) rfl

/-- Tokens can be asked for. -/
theorem tokenEndpoint_sampleGate :
    (sampleGate false).tokenEndpoint.address?.isSome := by
  decide +kernel

end Gate

end LoginGate
