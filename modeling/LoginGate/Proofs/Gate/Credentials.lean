import LoginGate.Proofs.Gate.Binding
import LoginGate.Proofs.Gate.Startup

/-!
# Codes are exchanged with credentials

Whoever has stolen a code must not be able to redeem it, so each request for a code has to prove
who sends it, by a code verifier or by a client secret. Nothing sees to that when the request is
made: a parameter without a value is left out of the form. It is seen to at startup, where settings
with neither are refused, and by the state cookie, in which every login attempt keeps a fresh
verifier.

## Main definitions

* `Http.Request.Proves` : the form of a request holds a verifier or a secret.

## Main results

* `Gate.bound_of_discover` : login attempts are bound, or there is a client secret.
* `Gate.proves_of_exchange` : every exchange of a code carries a credential.
-/

namespace LoginGate

/-! ### Startup -/

/-- A gate that starts binds login attempts or has a client secret. -/
theorem Gate.bound_of_discover {platform : Platform} {gate : Gate} {settings : CheckedSettings}
    {answer : Http.Answer} {entropy : Entropy}
    (h : (discover platform settings answer entropy).result = .ok gate) :
    gate.usePkce ∨ gate.settings.hasClientSecret := by
  obtain ⟨hopens, hsettings, hbinds⟩ := opens_of_discover h
  rw [hbinds, hsettings, Settings.hasClientSecret_iff]
  exact hopens.suits.exchange

/-! ### Requests -/

theorem TokenEndpoint.mem_unlessEmpty {name text : String} (h : text ≠ "") :
    (name, text) ∈ unlessEmpty name (some text) := by
  rw [unlessEmpty, if_neg (by simpa using h)]
  exact List.mem_singleton_self _

/-- The form of a request holds a code verifier or a client secret that is not empty. -/
def Http.Request.Proves (request : Http.Request) : Prop :=
  ∃ name ∈ ["code_verifier", "client_secret"], ∃ secret, secret ≠ "" ∧
    (name, secret) ∈ Form.decode request.body.toList

namespace Gate

variable {platform : Platform} {gate : Gate} {settings : CheckedSettings} {entropy : Entropy}
  {record : Record} {request : Http.Request} {code : String}

/-- With a client secret every exchange carries it. -/
theorem proves_of_hasClientSecret (hsecret : gate.settings.hasClientSecret)
    {verifier : Option String}
    (hsent : gate.tokenEndpoint.request? (.code code verifier) = some request) :
    request.Proves := by
  obtain ⟨secret, hkept, hne⟩ := Settings.hasClientSecret_iff.mp hsecret
  have hkept : gate.tokenEndpoint.clientSecret = some secret := hkept
  refine ⟨"client_secret", by simp, secret, hne, ?_⟩
  rw [decode_body_of_request? hsent, TokenEndpoint.parameters, hkept, List.mem_append,
    List.mem_append]
  exact .inl (.inr (TokenEndpoint.mem_unlessEmpty hne))

/-- An exchange for a login attempt carries its verifier. -/
theorem proves_of_verifier {verifier : String} (hne : verifier ≠ "")
    (hsent : gate.tokenEndpoint.request? (.code code (some verifier)) = some request) :
    request.Proves := by
  refine ⟨"code_verifier", by simp, verifier, hne, ?_⟩
  rw [decode_body_of_request? hsent, TokenEndpoint.parameters, List.mem_append]
  exact .inr (TokenEndpoint.mem_unlessEmpty hne)

theorem codeVerifier_nextAttempt_ne_empty (gate : Gate) (draws : Draws) :
    (gate.nextAttempt draws).codeVerifier ≠ "" := by
  have hlength : (gate.nextAttempt draws).codeVerifier.toList.length = 86 :=
    LoginAttempt.length_verifier_ofRandom (Entropy.length_piece ..) _
  intro hempty
  rw [hempty] at hlength
  cases hlength

/-- Whatever the settings and the provider are for which a gate starts, every request to exchange a
code carries a code verifier or a client secret that is not empty. -/
theorem proves_of_exchange {answer : Http.Answer}
    (hstart : (discover platform settings answer entropy).result = .ok gate) {memory : GateMemory}
    {visits : List (Moment × Visit)} (hunforged : gate.Unforged memory visits)
    {past later : List Record} (hhistory : gate.history memory visits = past ++ record :: later)
    (hrequest : request ∈ (gate.outcome record).requests)
    (hgrant : ("grant_type", "authorization_code") ∈ Form.decode request.body.toList) :
    request.Proves := by
  obtain ⟨grant, hasked, hsent⟩ := exists_grant_of_mem_requests hrequest
  rcases Course.grant?_eq_some hasked with
    ⟨session, -, rfl⟩ | ⟨code, verifier, cookies, hcourse, rfl⟩
  · rw [decode_body_of_request? hsent] at hgrant
    exact absurd hgrant (not_mem_parameters_refresh _ _)
  · rcases bound_of_discover hstart with hpkce | hsecret
    · -- The attempt comes from a cookie, which nobody but the gate can have made.
      obtain ⟨value, hvalue, attempt, hattempt, rfl, -⟩ := exists_opened_attempt hpkce hcourse
      obtain ⟨earlier, -, hsealed⟩ := hunforged.sealed_of_opened_attempt hhistory hvalue hattempt
      obtain ⟨rfl, -⟩ := sealed_attempt hsealed
      exact proves_of_verifier (codeVerifier_nextAttempt_ne_empty gate _) hsent
    · exact proves_of_hasClientSecret hsecret hsent

/-! ### A callback -/

/-- The callback posts its code with the client secret. -/
theorem proves_of_exchange_at_sampleCallback :
    (discover .standard sampleSettings samplePublished ⟨fun _ _ _ => 0⟩).result =
        .ok (sampleGate false) ∧
      (sampleGate false).Unforged {} sampleVisits ∧
      ∃ request ∈ ((sampleGate false).outcome sampleCallback).requests,
        ("grant_type", "authorization_code") ∈ Form.decode request.body.toList ∧
          request.Proves := by
  obtain ⟨request, hsent⟩ : ∃ request, (sampleGate false).tokenEndpoint.request?
      (.code "c" none) = some request :=
    Option.isSome_iff_exists.mp
      ((TokenEndpoint.isSome_request? ..).trans tokenEndpoint_sampleGate)
  have hrequest : request ∈ ((sampleGate false).outcome sampleCallback).requests := by
    rw [outcome, requests_step, course_sampleCallback, Course.grant?, Option.bind_some, hsent]
    exact List.mem_singleton_self _
  have hgrant : ("grant_type", "authorization_code") ∈ Form.decode request.body.toList := by
    rw [decode_body_of_request? hsent]
    exact mem_parameters_kind.mpr rfl
  have hhistory : (sampleGate false).history {} sampleVisits =
      [] ++ sampleCallback :: [sampleReturn] := history_sampleVisits
  exact ⟨discover_samplePublished, unforged_sampleVisits, request, hrequest, hgrant,
    proves_of_exchange discover_samplePublished unforged_sampleVisits hhistory hrequest hgrant⟩

end Gate

end LoginGate
