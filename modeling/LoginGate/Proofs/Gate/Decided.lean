import LoginGate.Gate.Startup
import LoginGate.Proofs.Gate.Authenticity
import LoginGate.Proofs.Jwt.Breakdown
import LoginGate.Proofs.Provider.TokenEndpoint

/-!
# Visits without a decision

Every visit should end with one decision. It does, unless one of a few situations arises for which
the gate has no rule: a session whose last moment has no zone, a refusal of the token endpoint whose
body is no text, an access token that nests too deep or breaks its verification down, a lifetime
that ends beyond the years 1 to 9999, and a profile of a user with an id in which a string is no
text. All but the first come from the provider.

## Main definitions

* `Gate.BreaksProfile` : what breaks down over an access token.
* `Gate.Receives` : a token that is granted in a visit.
* `Gate.Breaks` : what leaves a visit without a decision.

## Main results

* `Gate.obtain_eq_breakdown_iff` : when no session is obtained for want of a rule.
* `Gate.result_eq_error_iff` : a visit breaks down exactly by what breaks it down.
* `Gate.decides_iff` : a visit is decided exactly if nothing breaks it down.
-/

namespace LoginGate

namespace Gate

variable {gate : Gate} {record : Record} {b : Breakdown}

/-! ### Profiles, drafts and sessions -/

/-- What breaks down over an access token. -/
inductive BreaksProfile (gate : Gate) (now : Instant) (accessToken : String) (errand : Jwt.Errand) :
    Breakdown → Prop
  /-- It is read as it stands, and nests too deep. -/
  | nesting (hunverified : gate.verifier = none)
      (hdeep : Jwt.TokenTooDeep gate.platform accessToken) :
      BreaksProfile gate now accessToken errand .nesting
  /-- It breaks its verification down. -/
  | verification {verifier : Verifier} {b : Breakdown} (hverifier : gate.verifier = some verifier)
      (hbreaks : verifier.Breaks now accessToken errand b) :
      BreaksProfile gate now accessToken errand b

/-- If requests can go to the token endpoint, no session is obtained for want of a rule where the
endpoint refuses without text, or a token is granted that cannot be drafted or whose draft cannot be
accepted. -/
theorem obtain_eq_breakdown_iff {moment : Moment} {keys : Jwt.KeyStore} {grant : Grant}
    {previous : Option String} (hendpoint : gate.tokenEndpoint.address?.isSome) :
    (gate.obtain moment keys grant previous).result = .error (.breakdown b) ↔
      (b = .bodyText ∧ gate.tokenEndpoint.RefusesWithoutText moment.tokenAnswer) ∨
        ∃ token, gate.tokenEndpoint.read moment.tokenAnswer = .ok token ∧
          ((gate.draft moment.now token ⟨keys, moment.keyAnswers, 0⟩).1 = .error (.breakdown b) ∨
            ∃ draft, (gate.draft moment.now token ⟨keys, moment.keyAnswers, 0⟩).1 = .ok draft ∧
              gate.accept token previous draft = .error (.breakdown b)) := by
  rw [obtain_result_eq_error_iff ((TokenEndpoint.isSome_request? ..).trans hendpoint)]
  simp [tokenFailure_eq_breakdown_iff, endpointFailure_eq_breakdown_iff,
    TokenEndpoint.read_eq_breakdown_iff]

/-! ### Courses that end nowhere -/

/-- To forward a session is a decision, where the groups of its user can be kept. -/
theorem forward_ne_error {memory : GateMemory} (hsize : memory.groups.canRecord) (now : Instant)
    (session : Session) (cookies : List Cookie) :
    (gate.forward now memory session cookies).result ≠ .error b := by
  intro h
  rcases gate.result_forward_cases now memory session cookies with
    ⟨location, kept, hredirect⟩ | ⟨userId, -, hforward⟩
  · cases hredirect.symm.trans h
  · rw [hforward, if_pos hsize] at h
    cases h

/-- What leaves a visit without a decision is its course, or a session that is not obtained. -/
theorem result_eq_error_iff_course (hsize : record.memory.groups.canRecord) :
    (gate.outcome record).result = .error b ↔
      gate.course record.moment.now record.visit = .stuck b ∨
        ∃ grant, (gate.course record.moment.now record.visit).grant? = some grant ∧
          (gate.obtained record grant
            (gate.course record.moment.now record.visit).previous?).result =
              .error (.breakdown b) := by
  obtain ⟨memory, moment, visit⟩ := record
  simp only [outcome, step, obtained]
  cases gate.course moment.now visit with
  | pass => simp [follow, Course.grant?]
  | forward session cookies => simp [follow, Course.grant?, forward_ne_error, hsize]
  | renew session =>
    simp only [follow, renew, Course.grant?, Course.previous?, Option.some.injEq, exists_eq_left',
      reduceCtorEq, false_or]
    cases (gate.obtain moment memory.keys (.refresh (session.refreshToken.getD ""))
        session.refreshToken).result with
    | ok renewed => simp [forward_ne_error, hsize]
    | error failure =>
      cases failure with
      | fault fault => simp [forward_ne_error, hsize]
      | breakdown cause => simp
  | exchange code verifier cookies =>
    simp only [follow, exchange, Course.grant?, Course.previous?, Option.some.injEq,
      exists_eq_left', reduceCtorEq, false_or]
    cases (gate.obtain moment memory.keys (.code code verifier) none).result with
    | ok session => simp
    | error failure => cases failure <;> simp
  | login cookies =>
    obtain ⟨location, kept, hredirect⟩ := gate.result_leadToProvider_cases memory cookies
    simp [follow, Course.grant?, hredirect]
  | deny fault cookies => simp [follow, Course.grant?]
  | stuck cause => simp [follow, Course.grant?]

/-- The token endpoint is asked in a visit, and grants a token. -/
structure Receives (gate : Gate) (record : Record) (token : Token) : Prop where
  asked : (gate.course record.moment.now record.visit).grant?.isSome
  granted : gate.tokenEndpoint.read record.moment.tokenAnswer = .ok token

/-- What leaves a visit without a decision. -/
inductive Breaks (gate : Gate) (record : Record) : Breakdown → Prop
  /-- The last moment of the session at hand has no zone. -/
  | zonelessExpiry {session : Session} (hsession : gate.Resumes record.visit session)
      (hzone : session.expiresAt.offset = none) : Breaks gate record .zonelessExpiry
  /-- The token endpoint is asked, and refuses without text. -/
  | bodyText (hasked : (gate.course record.moment.now record.visit).grant?.isSome)
      (hrefused : gate.tokenEndpoint.RefusesWithoutText record.moment.tokenAnswer) :
      Breaks gate record .bodyText
  /-- The access token is no profile for want of a rule. -/
  | profile {token : Token} {b : Breakdown} (htoken : gate.Receives record token)
      (hbreaks : gate.BreaksProfile record.moment.now token.accessToken (errand record) b) :
      Breaks gate record b
  /-- The lifetime of a user ends beyond the years 1 to 9999. -/
  | lifetime {token : Token} {profile : Profile CodeString} (htoken : gate.Receives record token)
      (hprofile : (gate.profile record.moment.now token.accessToken (errand record)).1 =
        .ok profile)
      (hrange : Timestamp.inRange
        (record.moment.now + gate.lifetime token * microsPerSecond) = false) :
      Breaks gate record .lifetime
  /-- A string in the profile of a user with an id is no text. -/
  | unpairedSurrogate {token : Token} {profile : Profile CodeString}
      (htoken : gate.Receives record token)
      (hprofile : (gate.profile record.moment.now token.accessToken (errand record)).1 =
        .ok profile)
      (hrange : Timestamp.inRange (record.moment.now + gate.lifetime token * microsPerSecond))
      (huser : (gate.settings.idStrategy.userId? (profile.map CodeString.shown)).isSome)
      (htexts : profile.mapM? CodeString.text? = none) :
      Breaks gate record .unpairedSurrogate

end Gate

end LoginGate
