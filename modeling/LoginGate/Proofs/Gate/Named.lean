import LoginGate.Proofs.Gate.Binding
import LoginGate.Proofs.Gate.Decided

/-!
# Whom the provider names

The token endpoint is asked in some visits, and some answers grant a token that tells of a user. A
session is encrypted in just these visits, as far as they come to a decision: no branch encrypts a
session of anybody else, and none drops a user whom the provider names.

## Main definitions

* `Gate.Names`, `Gate.NamesUser` : the provider names a user in a visit.

## Main results

* `Gate.names_of_sealed` : the provider names the user of a session that is encrypted.
* `Gate.exists_sealed_of_names` : a session is encrypted where the provider names a user.
-/

namespace LoginGate.Gate

variable {gate : Gate} {record : Record} {decision : Decision}

/-- The provider names a user in a visit: the token endpoint is asked, its answer has status 200 and
grants a token, and the access token tells of somebody who has an id under the strategy of the
settings. -/
structure Names (gate : Gate) (record : Record) (token : Token) (profile : Profile CodeString) :
    Prop where
  asked : (gate.outcome record).requests ≠ []
  answered : ∃ message, record.moment.tokenAnswer = .message message ∧ message.status = 200 ∧
    Schema.document TokenAnswer.reader message.body = .valid (.granted token)
  told : (gate.profile record.moment.now token.accessToken (errand record)).1 = .ok profile
  user : (gate.settings.idStrategy.userId? (profile.map CodeString.shown)).isSome

/-- The provider names some user in a visit. -/
def NamesUser (gate : Gate) (record : Record) : Prop :=
  ∃ token profile, gate.Names record token profile

/-- The provider names the user of a session that is encrypted. -/
theorem names_of_sealed {session : Session} (h : gate.sealed? record = some (.session session)) :
    ∃ token, gate.Names record token (session.identity.map .text) := by
  obtain ⟨token, hmade⟩ := madeOf_of_sealed h
  obtain ⟨hasked, hanswered, htold⟩ := grants_of_madeOf h hmade
  have huser := hmade.user
  rw [Session.userId?, hmade.strategy, ← Profile.map_shown_map_text session.identity] at huser
  exact ⟨token, hasked, hanswered, htold, huser⟩

/-- A session of a user with an id is obtained or breaks down, but is not refused. -/
theorem obtain_result_ne_fault {moment : Moment} {keys : Jwt.KeyStore} {grant : Grant}
    {previous : Option String} {token : Token} {profile : Profile CodeString}
    (hrequest : (gate.tokenEndpoint.request? grant).isSome)
    (hread : gate.tokenEndpoint.read moment.tokenAnswer = .ok token)
    (htold : (gate.profile moment.now token.accessToken ⟨keys, moment.keyAnswers, 0⟩).1 =
      .ok profile)
    (huser : (gate.settings.idStrategy.userId? (profile.map CodeString.shown)).isSome)
    (fault : LoginFault) :
    (gate.obtain moment keys grant previous).result ≠ .error (.fault fault) := by
  have hask := TokenEndpoint.ask_result_eq_ok_iff.mpr ⟨hrequest, hread⟩
  rw [obtain]
  simp only [hask, draft, htold, Except.bind]
  cases Timestamp.after? moment.now (gate.lifetime token) with
  | none => simp [tokenFailure]
  | some expiry =>
    simp only [Result.mapError_ok, accept, hasUser, huser, begin]
    cases gate.session? token previous ⟨profile, expiry⟩ <;> simp

/-- Where no session is obtained for want of a rule, there is no decision. -/
theorem result_of_obtained_breakdown {grant : Grant} {b : Breakdown}
    (hgrant : (gate.course record.moment.now record.visit).grant? = some grant)
    (h : (gate.obtained record grant
      (gate.course record.moment.now record.visit).previous?).result = .error (.breakdown b)) :
    (gate.outcome record).result = .error b := by
  rw [obtained] at h
  rcases Course.grant?_eq_some hgrant with
    ⟨kept, hcourse, rfl⟩ | ⟨code, verifier, cookies, hcourse, rfl⟩
  · rw [hcourse, Course.previous?] at h
    simp only [outcome, step, hcourse, follow, renew, h]
  · rw [hcourse, Course.previous?] at h
    · simp only [outcome, step, hcourse, follow, exchange, h]
    · rintro session ⟨⟩

/-- Where the provider names a user and there is a decision, a session of the user is encrypted. -/
theorem exists_sealed_of_names (h : (gate.outcome record).result = .ok decision) {token : Token}
    {profile : Profile CodeString} (hnames : gate.Names record token profile) :
    ∃ session, gate.sealed? record = some (.session session) ∧
      session.identity.map .text = profile := by
  obtain ⟨hasked, hanswered, htold, huser⟩ := hnames
  obtain ⟨request, hrequest⟩ := List.exists_mem_of_ne_nil _ hasked
  obtain ⟨grant, hgrant, hsent⟩ := exists_grant_of_mem_requests hrequest
  have hread : gate.tokenEndpoint.read record.moment.tokenAnswer = .ok token :=
    TokenEndpoint.read_eq_ok_iff.mpr hanswered
  cases hresult : (gate.obtained record grant
      (gate.course record.moment.now record.visit).previous?).result with
  | ok session =>
    obtain ⟨found, hmade⟩ := madeOf_of_obtain hresult
    cases hread.symm.trans hmade.read
    exact ⟨session, sealed_of_obtained hgrant hresult,
      Except.ok.inj (hmade.told.symm.trans htold)⟩
  | error failure =>
    cases failure with
    | fault fault =>
      exact absurd hresult
        (obtain_result_ne_fault (Option.isSome_of_eq_some hsent) hread htold huser fault)
    | breakdown b => cases h.symm.trans (result_of_obtained_breakdown hgrant hresult)

/-- The provider names a user exactly if a session is encrypted, as far as there is a decision. -/
theorem namesUser_iff (h : (gate.outcome record).result = .ok decision) :
    gate.NamesUser record ↔ ∃ session, gate.sealed? record = some (.session session) := by
  constructor
  · rintro ⟨token, profile, hnames⟩
    obtain ⟨session, hsealed, -⟩ := exists_sealed_of_names h hnames
    exact ⟨session, hsealed⟩
  · rintro ⟨session, hsealed⟩
    obtain ⟨token, hnames⟩ := names_of_sealed hsealed
    exact ⟨token, _, hnames⟩

end LoginGate.Gate
