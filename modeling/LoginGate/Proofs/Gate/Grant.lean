import LoginGate.Gate.Grant
import LoginGate.Proofs.Result
import LoginGate.Proofs.Session.RoundTrip

/-!
# What it takes to obtain a session

A session is obtained when a request can go to the token endpoint, the endpoint answers with a token
and status 200, the access token tells of a user whose lifetime ends within the years 1 to 9999, the
user has an id, and all of the user's strings are texts. Each of the steps has its own lemma.

## Main definitions

* `Gate.MadeOf` : what makes a session of a granted token.

## Main results

* `Profile.mapM?_text?` : when a profile is an identity.
* `TokenEndpoint.read_eq_ok_iff` : when an answer holds a token.
* `TokenEndpoint.read_granting` : a token that is granted is read.
* `Gate.obtain_result` : the steps in which a session is obtained.
* `Gate.obtain_result_eq_ok_iff`, `Gate.obtain_result_eq_error_iff` : when a session is obtained,
  and when it is not.
* `Gate.obtain_result_eq_persist` : what is obtained for a granted token.
* `Gate.madeOf_of_obtain` : what an obtained session is made of.
-/

namespace LoginGate

/-! ### Profiles of texts -/

theorem CodeString.mapM_text? {strings : List CodeString} {texts : List String} :
    strings.mapM text? = some texts ↔ strings = texts.map text := by
  induction strings generalizing texts with
  | nil =>
    cases texts <;> simp
  | cons string strings ih =>
    rw [List.mapM_cons]
    cases string with
    | unpaired codes =>
      cases texts <;> simp [text?]
    | text s =>
      simp only [text?, Option.bind_eq_bind, Option.bind_some]
      cases texts with
      | nil => cases h : List.mapM text? strings <;> simp
      | cons t texts =>
        rw [List.map_cons, List.cons.injEq, ← ih]
        cases h : List.mapM text? strings <;> simp

theorem CodeString.option_mapM_text? {string : Option CodeString} {text : Option String} :
    string.mapM text? = some text ↔ string = text.map .text := by
  cases string with
  | none => cases text <;> simp
  | some string => cases string <;> cases text <;> simp [text?]

/-- A profile is an identity if all of its strings are texts. -/
theorem Profile.mapM?_text? {profile : Profile CodeString} {identity : Identity} :
    profile.mapM? CodeString.text? = some identity ↔ profile = identity.map .text := by
  obtain ⟨sub, name, email, groups, roles⟩ := profile
  obtain ⟨sub', name', email', groups', roles'⟩ := identity
  simp only [mapM?, Option.bind_eq_bind, Option.bind_eq_some_iff, CodeString.option_mapM_text?,
    CodeString.mapM_text?, Option.pure_def, Option.some.injEq, Profile.map, Profile.mk.injEq]
  constructor
  · rintro ⟨_, rfl, _, rfl, _, rfl, _, rfl, _, rfl, rfl, rfl, rfl, rfl, rfl⟩
    exact ⟨rfl, rfl, rfl, rfl, rfl⟩
  · rintro ⟨rfl, rfl, rfl, rfl, rfl⟩
    exact ⟨_, rfl, _, rfl, _, rfl, _, rfl, _, rfl, rfl, rfl, rfl, rfl, rfl⟩

theorem Profile.map_shown_map_text (identity : Identity) :
    (identity.map CodeString.text).map CodeString.shown = identity := by
  obtain ⟨sub, name, email, groups, roles⟩ := identity
  simp [Profile.map, Function.comp_def, CodeString.shown]

theorem IdStrategy.not_blank_of_userId? {strategy : IdStrategy} {identity : Identity}
    {userId : String} (h : strategy.userId? identity = some userId) :
    isBlankText userId = false := by
  rw [userId?, Option.filter_eq_some_iff] at h
  simpa using h.2

/-! ### Token documents -/

namespace Token

/-- A token is read back. -/
theorem reader_toJson (token : Token) : reader token.toJson = .valid token := by
  have hexpiry : Schema.nullable Schema.integer ((token.expiresIn.map Json.int).getD .null) =
      .valid token.expiresIn := by
    cases token.expiresIn <;> rfl
  simp only [reader, toJson, Schema.object, Schema.required, Schema.optional, Schema.withDefault,
    Json.get?, Json.lookupLast?]
  simp [Schema.nullable_textJson, hexpiry]
  rfl

theorem isPlain_toJson (token : Token) : token.toJson.isPlain := by
  obtain ⟨tokenType, accessToken, expiresIn, refreshToken, scope, idToken⟩ := token
  cases expiresIn <;>
    simp [toJson, Json.isPlain, Json.membersArePlain, Identity.isPlain_textJson]

theorem fits_toJson (depth : Nat) (token : Token) :
    token.toJson.fits (depth + 1) = token.expiresIn.all Json.isReadableInt := by
  obtain ⟨tokenType, accessToken, expiresIn, refreshToken, scope, idToken⟩ := token
  cases expiresIn <;> simp [toJson, Json.fits, Json.membersFit, Identity.fits_textJson]

end Token

/-- A token document is not mistaken for an error. -/
theorem TokenAnswer.reader_toJson (token : Token) :
    reader token.toJson = .valid (.granted token) := by
  have herror : ∃ issues, TokenError.reader token.toJson = .invalid issues := by
    simp only [TokenError.reader, Token.toJson, Schema.object, Schema.required, Schema.optional,
      Json.get?, Json.lookupLast?]
    exact ⟨_, rfl⟩
  obtain ⟨issues, herror⟩ := herror
  rw [reader, Token.reader_toJson, herror]

/-! ### The token endpoint -/

namespace TokenEndpoint

/-- The endpoint gives a token with an answer of status 200 that holds it. -/
theorem read_eq_ok_iff {endpoint : TokenEndpoint} {answer : Http.Answer} {token : Token} :
    endpoint.read answer = .ok token ↔ ∃ message, answer = .message message ∧ message.status = 200 ∧
      Schema.document TokenAnswer.reader message.body = .valid (.granted token) := by
  cases answer with
  | none why => simp [read]
  | message message =>
    simp only [read, Http.Answer.message.injEq, exists_eq_left']
    by_cases hstatus : message.status = 200
    · rw [if_neg (by simp [hstatus])]
      simp only [hstatus, true_and]
      split <;> simp_all
    · simp only [ne_eq, hstatus, not_false_eq_true, if_true, false_and, iff_false]
      split <;> simp

/-- The answer that grants a token. -/
def granting (token : Token) : Http.Answer :=
  .message { status := 200, body := Utf8.encode (token.toJson.render Json.compact) }

/-- A token that is granted is read, unless its lifetime has too many digits. -/
theorem read_granting {endpoint : TokenEndpoint} (token : Token) :
    endpoint.read (granting token) =
      if token.expiresIn.all Json.isReadableInt then .ok token
      else .error (.fault .unreadable) := by
  have hfits : token.toJson.fits Schema.dialect.depth = token.expiresIn.all Json.isReadableInt :=
    token.fits_toJson 199
  simp only [read, granting, ne_eq, not_true_eq_false, if_false,
    Schema.document_render _ token.isPlain_toJson, hfits, TokenAnswer.reader_toJson]
  cases token.expiresIn.all Json.isReadableInt <;> rfl

/-- Whatever is asked for, requests can go to the endpoint exactly if its address can be asked. -/
theorem isSome_request? (endpoint : TokenEndpoint) (grant : Grant) :
    (endpoint.request? grant).isSome = endpoint.address?.isSome := by
  rw [request?, Http.post?, Option.isSome_map, address?]

theorem ask_result_eq_ok_iff {endpoint : TokenEndpoint} {grant : Grant} {answer : Http.Answer}
    {token : Token} :
    (endpoint.ask grant answer).result = .ok token ↔
      (endpoint.request? grant).isSome ∧ endpoint.read answer = .ok token := by
  rw [ask]
  cases endpoint.request? grant with
  | none => simp
  | some request => cases endpoint.read answer <;> simp

theorem ask_requests (endpoint : TokenEndpoint) (grant : Grant) (answer : Http.Answer) :
    (endpoint.ask grant answer).requests = (endpoint.request? grant).toList := by
  rw [ask]
  cases endpoint.request? grant <;> rfl

end TokenEndpoint

/-! ### Drafts and sessions -/

theorem Timestamp.after?_eq_some_iff {now : Instant} {seconds : Int} {expiry : Timestamp} :
    after? now seconds = some expiry ↔
      inRange (now + seconds * microsPerSecond) ∧
        expiry = ofInstant (now + seconds * microsPerSecond) := by
  simp only [after?]
  split
  · rename_i h
    simp [h, eq_comm]
  · rename_i h
    simp [h]

namespace Gate

theorem draft_eq_ok_iff {gate : Gate} {now : Instant} {token : Token} {errand : Jwt.Errand}
    {draft : Draft} :
    (gate.draft now token errand).1 = .ok draft ↔
      (gate.profile now token.accessToken errand).1 = .ok draft.profile ∧
        Timestamp.after? now (gate.lifetime token) = some draft.expiry := by
  obtain ⟨profile, expiry⟩ := draft
  simp only [Gate.draft]
  cases (gate.profile now token.accessToken errand).1 with
  | error failure => simp [Except.bind]
  | ok found =>
    cases Timestamp.after? now (gate.lifetime token) <;> simp [Except.bind]

/-- There is no draft if the access token gives no profile, or if the lifetime ends beyond the years
1 to 9999. -/
theorem draft_eq_error_iff {gate : Gate} {now : Instant} {token : Token} {errand : Jwt.Errand}
    {failure : TokenFailure} :
    (gate.draft now token errand).1 = .error failure ↔
      (gate.profile now token.accessToken errand).1 = .error failure ∨
        ∃ profile, (gate.profile now token.accessToken errand).1 = .ok profile ∧
          Timestamp.after? now (gate.lifetime token) = none ∧ failure = .breakdown .lifetime := by
  simp only [Gate.draft]
  cases (gate.profile now token.accessToken errand).1 with
  | error failure => simp [Except.bind]
  | ok profile =>
    cases Timestamp.after? now (gate.lifetime token) <;> simp [Except.bind, eq_comm]

theorem session?_eq_some_iff {gate : Gate} {token : Token} {previous : Option String}
    {draft : Draft} {session : Session} :
    gate.session? token previous draft = some session ↔
      draft.profile = session.identity.map .text ∧
        session = ⟨session.identity, nextRefreshToken token previous, gate.lifetime token,
          draft.expiry, gate.settings.idStrategy⟩ := by
  rw [session?, Option.map_eq_some_iff]
  constructor
  · rintro ⟨identity, hidentity, rfl⟩
    exact ⟨Profile.mapM?_text?.mp hidentity, rfl⟩
  · rintro ⟨hprofile, hsession⟩
    exact ⟨_, Profile.mapM?_text?.mpr hprofile, hsession.symm⟩

theorem accept_eq_ok_iff {gate : Gate} {token : Token} {previous : Option String}
    {draft : Draft} {session : Session} :
    gate.accept token previous draft = .ok session ↔
      gate.hasUser draft ∧ gate.session? token previous draft = some session := by
  rw [accept]
  cases gate.hasUser draft with
  | false => simp
  | true =>
    simp only [Bool.not_true, Bool.false_eq_true, if_false, begin, true_and]
    cases gate.session? token previous draft <;> simp

/-- A draft is not accepted if it is nobody's, or if not all of its strings are texts. -/
theorem accept_eq_error_iff {gate : Gate} {token : Token} {previous : Option String}
    {draft : Draft} {failure : Failure LoginFault} :
    gate.accept token previous draft = .error failure ↔
      (gate.hasUser draft = false ∧ failure = .fault (.noUser gate.settings.idStrategy)) ∨
        (gate.hasUser draft ∧ gate.session? token previous draft = none ∧
          failure = .breakdown .unpairedSurrogate) := by
  rw [accept]
  cases gate.hasUser draft with
  | false => simp [eq_comm]
  | true =>
    simp only [Bool.not_true, Bool.false_eq_true, if_false, begin]
    cases gate.session? token previous draft <;> simp [eq_comm]

theorem endpointFailure_eq_fault_iff {failure : Failure TokenEndpointFault} {fault : LoginFault} :
    endpointFailure failure = .fault fault ↔
      ∃ refusal, failure = .fault refusal ∧ LoginFault.endpoint refusal = fault := by
  cases failure <;> simp [endpointFailure]

theorem endpointFailure_eq_breakdown_iff {failure : Failure TokenEndpointFault} {b : Breakdown} :
    endpointFailure failure = .breakdown b ↔ failure = .breakdown b := by
  cases failure <;> simp [endpointFailure]

theorem tokenFailure_eq_fault_iff {failure : TokenFailure} {fault : LoginFault} :
    tokenFailure failure = .fault fault ↔
      ∃ refusal, failure = .fault refusal ∧ LoginFault.token refusal = fault := by
  cases failure <;> simp [tokenFailure]

theorem tokenFailure_eq_breakdown_iff {failure : TokenFailure} {b : Breakdown} :
    tokenFailure failure = .breakdown b ↔ failure = .breakdown b := by
  cases failure <;> simp [tokenFailure]

/-- A session is obtained in three steps, if requests can go to the token endpoint: the endpoint
gives a token, which is drafted, and the draft is accepted. -/
theorem obtain_result (gate : Gate) (moment : Moment) (keys : Jwt.KeyStore) (grant : Grant)
    (previous : Option String) :
    (gate.obtain moment keys grant previous).result =
      if (gate.tokenEndpoint.request? grant).isSome then
        ((gate.tokenEndpoint.read moment.tokenAnswer).mapError endpointFailure).bind fun token =>
          ((gate.draft moment.now token ⟨keys, moment.keyAnswers, 0⟩).1.mapError tokenFailure).bind
            (gate.accept token previous)
      else .error (.breakdown .requestAddress) := by
  rw [obtain, TokenEndpoint.ask]
  cases gate.tokenEndpoint.request? grant with
  | none => rfl
  | some request => cases gate.tokenEndpoint.read moment.tokenAnswer <;> rfl

/-- What it takes to obtain a session. -/
theorem obtain_result_eq_ok_iff {gate : Gate} {moment : Moment} {keys : Jwt.KeyStore}
    {grant : Grant} {previous : Option String} {session : Session} :
    (gate.obtain moment keys grant previous).result = .ok session ↔
      (gate.tokenEndpoint.request? grant).isSome ∧
        ∃ token, gate.tokenEndpoint.read moment.tokenAnswer = .ok token ∧
          ∃ draft, (gate.draft moment.now token ⟨keys, moment.keyAnswers, 0⟩).1 = .ok draft ∧
            gate.accept token previous draft = .ok session := by
  rw [obtain_result]
  cases (gate.tokenEndpoint.request? grant).isSome with
  | false => simp
  | true =>
    simp only [if_true, Result.bind_eq_ok_iff, Result.mapError_eq_ok_iff, true_and]

/-- If requests can go to the token endpoint, no session is obtained where the endpoint gives no
token, or the token cannot be drafted, or its draft is not accepted. -/
theorem obtain_result_eq_error_iff {gate : Gate} {moment : Moment} {keys : Jwt.KeyStore}
    {grant : Grant} {previous : Option String} {failure : Failure LoginFault}
    (hrequest : (gate.tokenEndpoint.request? grant).isSome) :
    (gate.obtain moment keys grant previous).result = .error failure ↔
      (∃ refusal, gate.tokenEndpoint.read moment.tokenAnswer = .error refusal ∧
          endpointFailure refusal = failure) ∨
        ∃ token, gate.tokenEndpoint.read moment.tokenAnswer = .ok token ∧
          ((∃ refusal, (gate.draft moment.now token ⟨keys, moment.keyAnswers, 0⟩).1 =
              .error refusal ∧ tokenFailure refusal = failure) ∨
            ∃ draft, (gate.draft moment.now token ⟨keys, moment.keyAnswers, 0⟩).1 = .ok draft ∧
              gate.accept token previous draft = .error failure) := by
  rw [obtain_result, if_pos hrequest]
  simp only [Result.bind_eq_error_iff, Result.mapError_eq_error_iff, Result.mapError_eq_ok_iff]

/-- The session that a granted token begins is obtained, if it is that of a user with an id. -/
theorem obtain_result_eq_persist {gate : Gate} {moment : Moment} {keys : Jwt.KeyStore}
    {grant : Grant} {previous : Option String} {token : Token}
    (hrequest : (gate.tokenEndpoint.request? grant).isSome)
    (hread : gate.tokenEndpoint.read moment.tokenAnswer = .ok token)
    (huser : ∀ draft, (gate.draft moment.now token ⟨keys, moment.keyAnswers, 0⟩).1 = .ok draft →
      gate.hasUser draft) :
    (gate.obtain moment keys grant previous).result =
      (gate.persist moment.now token previous ⟨keys, moment.keyAnswers, 0⟩).1.mapError
        tokenFailure := by
  rw [obtain_result, if_pos hrequest, hread]
  simp only [Result.mapError_ok, Except.bind, persist]
  cases hdraft : (gate.draft moment.now token ⟨keys, moment.keyAnswers, 0⟩).1 with
  | error failure => rfl
  | ok draft =>
    simp only [Result.mapError_ok, accept, huser draft hdraft, Bool.not_true, Bool.false_eq_true,
      if_false, begin]
    cases gate.session? token previous draft <;> rfl

/-- A session is made of a granted token: the access token tells of the identity, the lifetime
begins at the moment and ends within the years 1 to 9999, and the user has an id. -/
structure MadeOf (gate : Gate) (moment : Moment) (keys : Jwt.KeyStore) (previous : Option String)
    (token : Token) (session : Session) : Prop where
  read : gate.tokenEndpoint.read moment.tokenAnswer = .ok token
  told : (gate.profile moment.now token.accessToken ⟨keys, moment.keyAnswers, 0⟩).1 =
    .ok (session.identity.map .text)
  refreshToken : session.refreshToken = nextRefreshToken token previous
  expiresIn : session.expiresIn = gate.lifetime token
  expiresAt : session.expiresAt =
    .ofInstant (moment.now + session.expiresIn * microsPerSecond)
  inRange : Timestamp.inRange (moment.now + session.expiresIn * microsPerSecond)
  strategy : session.strategy = gate.settings.idStrategy
  user : session.userId?.isSome

/-- An obtained session is made of a granted token. -/
theorem madeOf_of_obtain {gate : Gate} {moment : Moment} {keys : Jwt.KeyStore} {grant : Grant}
    {previous : Option String} {session : Session}
    (h : (gate.obtain moment keys grant previous).result = .ok session) :
    ∃ token, gate.MadeOf moment keys previous token session := by
  obtain ⟨-, token, hread, draft, hdraft, haccept⟩ := obtain_result_eq_ok_iff.mp h
  obtain ⟨hprofile, hexpiry⟩ := draft_eq_ok_iff.mp hdraft
  obtain ⟨huser, hsession⟩ := accept_eq_ok_iff.mp haccept
  obtain ⟨hidentity, hfields⟩ := session?_eq_some_iff.mp hsession
  obtain ⟨hrange, hutc⟩ := Timestamp.after?_eq_some_iff.mp hexpiry
  rw [hidentity] at hprofile
  have hlifetime : session.expiresIn = gate.lifetime token := by rw [hfields]
  have hstrategy : session.strategy = gate.settings.idStrategy := by rw [hfields]
  have hexpires : session.expiresAt = draft.expiry := by rw [hfields]
  rw [hasUser, hidentity, Profile.map_shown_map_text, ← hstrategy] at huser
  rw [← hlifetime] at hrange hutc
  exact ⟨token, hread, hprofile, by rw [hfields], hlifetime, hexpires.trans hutc, hrange,
    hstrategy, huser⟩

theorem obtain_requests (gate : Gate) (moment : Moment) (keys : Jwt.KeyStore) (grant : Grant)
    (previous : Option String) :
    (gate.obtain moment keys grant previous).requests =
      (gate.tokenEndpoint.request? grant).toList := by
  rw [obtain, ← TokenEndpoint.ask_requests gate.tokenEndpoint grant moment.tokenAnswer]
  cases (gate.tokenEndpoint.ask grant moment.tokenAnswer).result <;> rfl

end Gate

end LoginGate
