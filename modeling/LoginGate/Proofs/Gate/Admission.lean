import LoginGate.Proofs.Gate.Contact
import LoginGate.Proofs.Gate.Decided
import LoginGate.Proofs.Jwt.Profile
import LoginGate.Proofs.Jwt.Soundness

/-!
# Who can log in

The settings say which attributes of an identity may serve as the user id, and in which order. The
first one that is there and not blank is taken as it is. A user who has none is denied at the end of
the login. There is one exception: where the subject may serve in place of the mail address, only an
empty address gives way to it. A blank one that is not empty is preferred and cannot serve, so it
hides the subject, and the user is denied although the subject could serve.

## Main definitions

* `IdStrategy.attributes`, `IdStrategy.usable?` : the attributes that may serve, and those that can.
* `IdStrategy.hidesSubject` : a blank mail address hides the subject.
* `Gate.Introduces` : the provider tells of an identity at the end of a login.
* `IdStrategy.Settles` : how a strategy settles on a user id.

## Main results

* `IdStrategy.userId?_eq` : the user id is the first attribute that can serve, unless it is hidden.
* `Gate.admitted_of_introduces`, `Gate.denied_of_introduces` : what comes of a login that the
  provider has granted.
* `IdStrategy.settles_user` : every strategy settles on a user id in this way.
-/

namespace LoginGate

namespace IdStrategy

variable {strategy : IdStrategy} {identity : Identity} {userId : String} {value : Option String}

/-! ### User ids -/

/-- The attributes that may serve as the user id, the preferred one first. -/
def attributes (strategy : IdStrategy) (identity : Identity) : List (Option String) :=
  match strategy with
  | .email => [identity.email]
  | .sub => [identity.sub]
  | .google => [identity.email, identity.sub]

/-- An attribute that can serve as the user id: it is there, and it is not blank. -/
def usable? (value : Option String) : Option String := value.filter (!isBlankText ·)

/-- Whether a mail address that is not empty but blank hides the subject. -/
def hidesSubject (strategy : IdStrategy) (identity : Identity) : Bool :=
  strategy = .google && identity.email.any fun mail => !mail.isEmpty && isBlankText mail

theorem usable?_eq_some_iff :
    usable? value = some userId ↔ value = some userId ∧ isBlankText userId = false := by
  rw [usable?, Option.filter_eq_some_iff, Bool.not_eq_true']

/-- The mail address is preferred to the subject if it is not empty, and then it has to serve. -/
theorem userId?_google (identity : Identity) :
    IdStrategy.google.userId? identity = if IdStrategy.google.hidesSubject identity then none
      else (usable? identity.email).or (usable? identity.sub) := by
  rw [userId?, attribute?, hidesSubject]
  cases hmail : identity.email with
  | none => rfl
  | some mail =>
    cases hempty : mail.isEmpty with
    | true =>
      obtain rfl := String.isEmpty_iff.mp hempty
      rfl
    | false =>
      have hchosen : (nonEmpty? (some mail)).or identity.sub = some mail := by
        rw [nonEmpty?, Option.filter_some, if_pos (by rw [hempty, Bool.not_false])]
        rfl
      rw [hchosen]
      cases hblank : isBlankText mail <;> simp [usable?, Option.filter_some, hempty, hblank]

/-- The user id is the first attribute that can serve, unless the subject is hidden. -/
theorem userId?_eq (strategy : IdStrategy) (identity : Identity) :
    strategy.userId? identity = if strategy.hidesSubject identity then none
      else (strategy.attributes identity).findSome? usable? := by
  cases strategy with
  | email => exact List.findSome?_singleton.symm
  | sub => exact List.findSome?_singleton.symm
  | google =>
    rw [userId?_google, attributes, List.findSome?_cons, List.findSome?_singleton]
    cases usable? identity.email <;> rfl

/-- A user id is an attribute that may serve, as it is, and it is not blank. -/
theorem mem_attributes_of_userId? (h : strategy.userId? identity = some userId) :
    some userId ∈ strategy.attributes identity ∧ isBlankText userId = false := by
  rw [userId?_eq] at h
  split at h
  · cases h
  · obtain ⟨value, hvalue, husable⟩ := List.exists_of_findSome?_eq_some h
    obtain ⟨rfl, hblank⟩ := usable?_eq_some_iff.mp husable
    exact ⟨hvalue, hblank⟩

/-- There is no user id exactly if every attribute that may serve is missing or blank, or if the
subject is hidden. -/
theorem userId?_eq_none_iff :
    strategy.userId? identity = none ↔
      (∀ text, some text ∈ strategy.attributes identity → isBlankText text) ∨
        strategy.hidesSubject identity := by
  rw [userId?_eq]
  cases strategy.hidesSubject identity with
  | true => simp
  | false =>
    rw [if_neg Bool.false_ne_true, List.findSome?_eq_none_iff, or_iff_left Bool.false_ne_true]
    constructor
    · intro h text htext
      simpa [usable?, Option.filter_some] using h _ htext
    · rintro h (_ | text) hvalue
      · rfl
      · simpa [usable?, Option.filter_some] using h text hvalue

end IdStrategy

namespace Gate

variable {gate : Gate} {record : Record} {identity : Identity}

/-! ### Logins -/

/-- The provider tells of an identity at the end of a login: the code of the visit is to be
redeemed, and a token is granted for it that tells of the identity and ends within the years 1 to
9999. -/
structure Introduces (gate : Gate) (record : Record) (identity : Identity) : Prop where
  redeems : gate.Redeems record.visit
  endpoint : gate.tokenEndpoint.address?.isSome
  granted : ∃ token, gate.tokenEndpoint.read record.moment.tokenAnswer = .ok token ∧
    (gate.profile record.moment.now token.accessToken (errand record)).1 =
      .ok (identity.map .text) ∧
    Timestamp.inRange (record.moment.now + gate.lifetime token * microsPerSecond)

/-- Whether a session is obtained for whoever is introduced depends on nothing but the user id. -/
theorem obtained_of_introduces (h : gate.Introduces record identity) (code : String)
    (verifier : Option String) :
    ∃ token expiry, (gate.obtained record (.code code verifier) none).result =
      gate.accept token none ⟨identity.map .text, expiry⟩ := by
  obtain ⟨-, hendpoint, token, hread, htold, hrange⟩ := h
  have hrequest : (gate.tokenEndpoint.request? (.code code verifier)).isSome :=
    (TokenEndpoint.isSome_request? ..).trans hendpoint
  let expiry := Timestamp.ofInstant (record.moment.now + gate.lifetime token * microsPerSecond)
  have hdraft : (gate.draft record.moment.now token (errand record)).1 =
      .ok ⟨identity.map .text, expiry⟩ :=
    draft_eq_ok_iff.mpr ⟨htold, Timestamp.after?_eq_some_iff.mpr ⟨hrange, rfl⟩⟩
  refine ⟨token, expiry, ?_⟩
  rw [obtained, obtain_result, if_pos hrequest, hread]
  exact congrArg (fun draft => (draft.mapError tokenFailure).bind (gate.accept token none)) hdraft

/-- Whoever is introduced is led into the site with a session, if there is a user id. -/
theorem admitted_of_introduces (h : gate.Introduces record identity)
    (huser : (gate.settings.idStrategy.userId? identity).isSome) :
    ∃ session cookies, gate.sealed? record = some (.session session) ∧
      session.identity = identity ∧
      (gate.outcome record).result = .ok (.redirect gate.settings.postLoginPath cookies true) := by
  obtain ⟨code, verifier, kept, hcourse⟩ :=
    (course_eq_exchange_iff record.moment.now).mpr h.redeems
  obtain ⟨token, expiry, hobtained⟩ := obtained_of_introduces h code verifier
  let session : Session := ⟨identity, nextRefreshToken token none, gate.lifetime token, expiry,
    gate.settings.idStrategy⟩
  have haccept : gate.accept token none ⟨identity.map .text, expiry⟩ = .ok session := by
    refine accept_eq_ok_iff.mpr ⟨?_, session?_eq_some_iff.mpr ⟨rfl, rfl⟩⟩
    rwa [hasUser, Profile.map_shown_map_text]
  have hresult := hobtained.trans haccept
  refine ⟨session, kept ++ [gate.keepSession record.memory.draws session], ?_, rfl, ?_⟩
  · simp only [sealed?, hcourse, hresult]
  · rw [obtained] at hresult
    rw [outcome, step, hcourse]
    simp only [follow, exchange, hresult]

/-- Whoever is introduced is denied, if there is no user id. -/
theorem denied_of_introduces (h : gate.Introduces record identity)
    (hnobody : gate.settings.idStrategy.userId? identity = none) :
    ∃ cookies, (gate.outcome record).result =
      .ok (.deny (LoginFault.noUser gate.settings.idStrategy).denial cookies) := by
  obtain ⟨code, verifier, kept, hcourse⟩ :=
    (course_eq_exchange_iff record.moment.now).mpr h.redeems
  obtain ⟨token, expiry, hobtained⟩ := obtained_of_introduces h code verifier
  have haccept : gate.accept token none ⟨identity.map .text, expiry⟩ =
      .error (.fault (.noUser gate.settings.idStrategy)) := by
    refine accept_eq_error_iff.mpr (.inl ⟨?_, rfl⟩)
    rw [hasUser, Profile.map_shown_map_text, hnobody, Option.isSome_none]
  have hresult := hobtained.trans haccept
  rw [obtained] at hresult
  refine ⟨kept, ?_⟩
  rw [outcome, step, hcourse]
  simp only [follow, exchange, hresult]

/-! ### A mail address in front of a subject -/

/-- The site's gate, if users are known by their mail addresses or else by their subjects. -/
def sampleFallbackGate : Gate :=
  { sampleGate false with
    plan := ⟨{ sampleSettings with idStrategy := .google }, some "site.example"⟩ }

/-- A user with a mail address and a subject. -/
def sampleNamed (mail : String) : Identity := { email := some mail, sub := some "abc" }

/-- Claims that tell of the user. -/
def sampleNamedClaims (mail : String) : List (String × Json) :=
  [("email", .str mail), ("sub", .str "abc")]

/-- An access token with the claims. -/
def sampleNamedToken (mail : String) : String :=
  Jwt.compose (Utf8.encode ((Json.obj []).render Json.compact))
    (Utf8.encode ((Json.obj (sampleNamedClaims mail)).render Json.compact)) []

/-- The provider leads the user back with a code, and grants the token for it. -/
def sampleNamedRecord (mail : String) : Record where
  memory := {}
  moment := ⟨0, TokenEndpoint.granting { accessToken := sampleNamedToken mail }, []⟩
  visit := sampleCallback.visit

theorem redeems_sampleFallbackGate : sampleFallbackGate.Redeems sampleCallback.visit :=
  (course_eq_exchange_iff 0).mp ⟨"c", none, [], by decide⟩

theorem ofToken_sampleNamedToken {mail : String}
    (hclaims : Json.ofBytes 990
      (Utf8.encode ((Json.obj (sampleNamedClaims mail)).render Json.compact)) =
        .ok (.obj (sampleNamedClaims mail))) :
    Profile.ofToken .standard (sampleNamedToken mail) = .ok ((sampleNamed mail).map .text) := by
  have hheader : Json.ofBytes 990 (Utf8.encode ((Json.obj []).render Json.compact)) =
      .ok (.obj []) := Json.ofBytes_of_render (.obj []) rfl rfl (by decide +kernel)
  have hread : Jwt.read .standard (sampleNamedToken mail) =
      .ok (.obj [], .obj (sampleNamedClaims mail)) :=
    Jwt.read_compose hheader rfl rfl hclaims []
  exact Profile.ofToken_of_isTextual hread rfl

/-- The provider introduces the user, if the claims are read. -/
theorem introduces_sampleNamed {mail : String}
    (hclaims : Json.ofBytes 990
      (Utf8.encode ((Json.obj (sampleNamedClaims mail)).render Json.compact)) =
        .ok (.obj (sampleNamedClaims mail))) :
    sampleFallbackGate.Introduces (sampleNamedRecord mail) (sampleNamed mail) where
  redeems := redeems_sampleFallbackGate
  endpoint := tokenEndpoint_sampleGate
  granted := by
    refine ⟨{ accessToken := sampleNamedToken mail }, TokenEndpoint.read_granting _, ?_, ?_⟩
    · have hlocal : sampleFallbackGate.verifier = none := rfl
      have hplatform : sampleFallbackGate.platform = .standard := rfl
      simp only [profile, hlocal, hplatform, ofToken_sampleNamedToken hclaims]
    · change Timestamp.inRange (0 + 43200 * microsPerSecond)
      decide

end Gate

namespace IdStrategy

/-- How a strategy settles on the user id of an identity. -/
structure Settles (strategy : IdStrategy) (identity : Identity) : Prop where
  /-- The user id is an attribute that may serve, as it is, and it is not blank. -/
  taken : ∀ userId, strategy.userId? identity = some userId →
    some userId ∈ strategy.attributes identity ∧ isBlankText userId = false
  /-- It is the first such attribute, unless the subject is hidden. -/
  first : strategy.hidesSubject identity = false →
    strategy.userId? identity = (strategy.attributes identity).findSome? usable?
  /-- There is none exactly if all of them are missing or blank, or if the subject is hidden. -/
  none_iff : strategy.userId? identity = none ↔
    (∀ text, some text ∈ strategy.attributes identity → isBlankText text) ∨
      strategy.hidesSubject identity
  /-- Whoever has an attribute that can serve, and is introduced, is led into the site with a
  session, unless the subject is hidden. -/
  admitted : ∀ (gate : Gate) (record : Record), gate.settings.idStrategy = strategy →
    gate.Introduces record identity → ∀ text, some text ∈ strategy.attributes identity →
    isBlankText text = false → strategy.hidesSubject identity = false →
    ∃ session cookies, gate.sealed? record = some (.session session) ∧
      session.identity = identity ∧
      (gate.outcome record).result = .ok (.redirect gate.settings.postLoginPath cookies true)
  /-- Whoever is introduced is denied if there is none. -/
  denied : ∀ (gate : Gate) (record : Record), gate.settings.idStrategy = strategy →
    gate.Introduces record identity →
    (∀ text, some text ∈ strategy.attributes identity → isBlankText text) ∨
      strategy.hidesSubject identity →
    ∃ cookies, (gate.outcome record).result =
      .ok (.deny (LoginFault.noUser strategy).denial cookies)

/-- Every strategy settles on the user id of every identity in this way. -/
theorem settles_user (strategy : IdStrategy) (identity : Identity) :
    strategy.Settles identity where
  taken _ := mem_attributes_of_userId?
  first h := by rw [userId?_eq, h, if_neg Bool.false_ne_true]
  none_iff := userId?_eq_none_iff
  admitted gate record hstrategy hintroduced text htext hblank hshown := by
    refine Gate.admitted_of_introduces hintroduced ?_
    rw [hstrategy, ← Option.ne_none_iff_isSome, ne_eq, userId?_eq_none_iff, not_or]
    exact ⟨fun hall => by simp [hall text htext] at hblank, by simp [hshown]⟩
  denied gate record hstrategy hintroduced hnobody := by
    subst hstrategy
    exact Gate.denied_of_introduces hintroduced (userId?_eq_none_iff.mpr hnobody)

/-- A user with an empty mail address is known by the subject and led into the site. -/
theorem settles_user_by_subject :
    IdStrategy.google.userId? (Gate.sampleNamed "") = some "abc" ∧
      some "abc" ∈ IdStrategy.google.attributes (Gate.sampleNamed "") ∧
      Gate.sampleFallbackGate.Introduces (Gate.sampleNamedRecord "") (Gate.sampleNamed "") ∧
      ∃ session cookies,
        Gate.sampleFallbackGate.sealed? (Gate.sampleNamedRecord "") = some (.session session) ∧
        session.identity = Gate.sampleNamed "" ∧
        (Gate.sampleFallbackGate.outcome (Gate.sampleNamedRecord "")).result =
          .ok (.redirect Gate.sampleFallbackGate.settings.postLoginPath cookies true) := by
  have hsettles := settles_user .google (Gate.sampleNamed "")
  have hid : IdStrategy.google.userId? (Gate.sampleNamed "") = some "abc" :=
    (hsettles.first (by decide)).trans (by decide)
  obtain ⟨hmem, hblank⟩ := hsettles.taken "abc" hid
  have hintroduced := Gate.introduces_sampleNamed
    (Json.ofBytes_of_render (.obj (Gate.sampleNamedClaims "")) rfl rfl (by decide +kernel))
  exact ⟨hid, hmem, hintroduced,
    hsettles.admitted _ _ rfl hintroduced "abc" hmem hblank (by decide)⟩

/-- A user with a blank mail address has no user id and is denied, though the subject could
serve. -/
theorem subject_hidden_by_blank_mail :
    IdStrategy.google.userId? (Gate.sampleNamed " ") = none ∧
      some "abc" ∈ IdStrategy.google.attributes (Gate.sampleNamed " ") ∧
      isBlankText "abc" = false ∧
      Gate.sampleFallbackGate.Introduces (Gate.sampleNamedRecord " ") (Gate.sampleNamed " ") ∧
      ∃ cookies, (Gate.sampleFallbackGate.outcome (Gate.sampleNamedRecord " ")).result =
        .ok (.deny (LoginFault.noUser .google).denial cookies) := by
  have hid : IdStrategy.google.userId? (Gate.sampleNamed " ") = none := by decide
  have hintroduced := Gate.introduces_sampleNamed
    (Json.ofBytes_of_render (.obj (Gate.sampleNamedClaims " ")) rfl rfl (by decide +kernel))
  exact ⟨hid, by decide, by decide, hintroduced, Gate.denied_of_introduces hintroduced hid⟩

end IdStrategy

end LoginGate
