import LoginGate.Proofs.Gate.Renewal
import LoginGate.Proofs.Gate.Trust

/-!
# What stays secret

The client secret and the tokens stay between the gate and the provider. Two gates that differ in
nothing but the client secret are given the same visits, and the provider gives them answers that
differ in nothing but the tokens: both access tokens tell of the same user, and lifetime and refresh
token are the same. Then the gates come to the same decisions, down to the cookies and the words of
a denial, and record the same groups.

If tokens are verified, one thing more is needed: where the answers are the same, the token has to
be judged alike. It need not be, as the keys that a gate has at hand are those of an answer that it
has asked for itself, which depends on the tokens before.

## Main definitions

* `Gate.withSecret` : a gate with another client secret.
* `Gate.Corresponds` : two visits differ in nothing but tokens that tell of the same user.
* `Gate.JudgesAlike` : in two visits the same token is judged alike.
* `Outcome.seen` : the decision, and the groups.

## Main results

* `Gate.make_withSecret` : a gate with another secret is made of settings with another secret.
* `Gate.agrees_step` : one visit.
* `Gate.agrees_run` : all visits, one after the other.
* `Gate.secrets_stay` : what is seen does not depend on the client secret and on the tokens.
-/

namespace LoginGate

/-! ### Memories and outcomes that agree -/

/-- Two memories agree, but for the keys at hand. -/
structure GateMemory.Agrees (memory memory' : GateMemory) : Prop where
  groups : memory'.groups = memory.groups
  draws : memory'.draws = memory.draws

theorem GateMemory.Agrees.refl (memory : GateMemory) : memory.Agrees memory := ⟨rfl, rfl⟩

/-- Two outcomes agree, but for the keys at hand and for what the provider is asked. -/
structure Outcome.Agrees (outcome outcome' : Outcome) : Prop where
  result : outcome'.result = outcome.result
  memory : outcome.memory.Agrees outcome'.memory

/-- What is seen of an outcome from outside: the decision, and the groups. -/
def Outcome.seen (outcome : Outcome) : Except Breakdown Decision × GroupsCache :=
  (outcome.result, outcome.memory.groups)

theorem Outcome.Agrees.seen_eq {outcome outcome' : Outcome} (h : outcome.Agrees outcome') :
    outcome'.seen = outcome.seen :=
  Prod.ext h.result h.memory.groups

namespace Gate

variable {platform : Platform} {gate : Gate} {secret : Option String}
  {memory memory' : GateMemory}

/-! ### Another client secret -/

/-- A gate with another client secret. -/
def withSecret (gate : Gate) (secret : Option String) : Gate :=
  { gate with plan := { gate.plan with settings := { gate.settings with clientSecret := secret } } }

/-- A gate with another secret is made of settings with another secret. -/
theorem make_withSecret (platform : Platform) (settings : CheckedSettings)
    (metadata : ProviderMetadata) (usePkce : Bool) (entropy : Entropy) (secret : Option String) :
    make platform { settings with clientSecret := secret } metadata usePkce entropy =
      (make platform settings metadata usePkce entropy).map (·.withSecret secret) := by
  simp only [make, CookiePlan.ofSettings?]
  cases Url.split? settings.redirectUri with
  | none => rfl
  | some parts =>
    have hverifier : verifierFor platform { settings with clientSecret := secret } metadata =
        verifierFor platform settings metadata := rfl
    simp only [Option.map_some, hverifier]
    cases verifierFor platform settings metadata <;> rfl

/-- What is to be done does not depend on the secret. -/
theorem course_withSecret (gate : Gate) (secret : Option String) (now : Instant) (visit : Visit) :
    (gate.withSecret secret).course now visit = gate.course now visit := rfl

/-- Whether a request can be sent does not depend on the secret, though the request does. -/
theorem isSome_request?_withSecret (gate : Gate) (secret : Option String) (grant : Grant) :
    ((gate.withSecret secret).tokenEndpoint.request? grant).isSome =
      (gate.tokenEndpoint.request? grant).isSome := by
  rw [TokenEndpoint.isSome_request?, TokenEndpoint.isSome_request?]
  rfl

/-- What the token endpoint gives does not depend on the secret, though what it is asked does. -/
theorem obtain_result_withSecret (gate : Gate) (secret : Option String) (moment : Moment)
    (keys : Jwt.KeyStore) (grant : Grant) (previous : Option String) :
    ((gate.withSecret secret).obtain moment keys grant previous).result =
      (gate.obtain moment keys grant previous).result := by
  rw [obtain_result, obtain_result, isSome_request?_withSecret]
  rfl

/-! ### Decisions that need no provider -/

theorem agrees_leadToProvider (h : memory.Agrees memory') (cookies : List Cookie) :
    (gate.leadToProvider memory cookies).Agrees
      ((gate.withSecret secret).leadToProvider memory' cookies) := by
  obtain ⟨groups, keys, draws⟩ := memory
  obtain ⟨groups', keys', draws'⟩ := memory'
  obtain ⟨rfl, rfl⟩ := h
  have hpkce : (gate.withSecret secret).usePkce = gate.usePkce := rfl
  simp only [leadToProvider, hpkce]
  cases gate.usePkce <;> exact ⟨rfl, rfl, rfl⟩

theorem agrees_forward (now : Instant) (h : memory.Agrees memory') (session : Session)
    (cookies : List Cookie) :
    (gate.forward now memory session cookies).Agrees
      ((gate.withSecret secret).forward now memory' session cookies) := by
  simp only [Gate.forward]
  cases session.userId? with
  | none => exact agrees_leadToProvider h _
  | some userId =>
    obtain ⟨groups, keys, draws⟩ := memory
    obtain ⟨groups', keys', draws'⟩ := memory'
    obtain ⟨rfl, rfl⟩ := h
    exact ⟨rfl, rfl, rfl⟩

/-! ### Decisions that need the provider -/

variable {moment moment' : Moment} {session : Session}

/-- A session is renewed alike if the provider gives the same one for it. -/
theorem agrees_renew (hagrees : memory.Agrees memory') (hnow : moment'.now = moment.now)
    (hsame : (gate.obtain moment' memory'.keys (.refresh (session.refreshToken.getD ""))
        session.refreshToken).result =
      (gate.obtain moment memory.keys (.refresh (session.refreshToken.getD ""))
        session.refreshToken).result) :
    (gate.renew moment memory session).Agrees
      ((gate.withSecret secret).renew moment' memory' session) := by
  obtain ⟨groups, keys, draws⟩ := memory
  obtain ⟨groups', keys', draws'⟩ := memory'
  obtain ⟨rfl, rfl⟩ := hagrees
  simp only [renew, obtain_result_withSecret, hsame, hnow]
  -- The keys that are remembered from here on may be different.
  generalize ((gate.withSecret secret).obtain moment' keys' _ _).keys = after'
  generalize (gate.obtain moment keys _ _).keys = after
  cases (gate.obtain moment keys _ _).result with
  | error failure =>
    cases failure with
    | breakdown cause => exact ⟨rfl, rfl, rfl⟩
    | fault fault =>
      have hforward := @agrees_forward gate secret ⟨groups', after, draws'⟩
        ⟨groups', after', draws'⟩ moment.now ⟨rfl, rfl⟩ session [gate.plan.clearSession]
      exact ⟨hforward.result, hforward.memory⟩
  | ok renewed =>
    have hforward := @agrees_forward gate secret ⟨groups', after, afterSession draws'⟩
      ⟨groups', after', afterSession draws'⟩ moment.now ⟨rfl, rfl⟩ renewed
      [gate.keepSession draws' renewed]
    exact ⟨hforward.result, hforward.memory⟩

/-- A code is exchanged alike if the provider gives the same session for it. -/
theorem agrees_exchange (hagrees : memory.Agrees memory') {code : String}
    {verifier : Option String} (cookies : List Cookie)
    (hsame : (gate.obtain moment' memory'.keys (.code code verifier) none).result =
      (gate.obtain moment memory.keys (.code code verifier) none).result) :
    (gate.exchange moment memory code verifier cookies).Agrees
      ((gate.withSecret secret).exchange moment' memory' code verifier cookies) := by
  obtain ⟨groups, keys, draws⟩ := memory
  obtain ⟨groups', keys', draws'⟩ := memory'
  obtain ⟨rfl, rfl⟩ := hagrees
  simp only [exchange, obtain_result_withSecret, hsame]
  cases (gate.obtain moment keys (.code code verifier) none).result with
  | error failure => cases failure <;> exact ⟨rfl, rfl, rfl⟩
  | ok session => exact ⟨rfl, rfl, rfl⟩

/-! ### Visits that differ in tokens -/

/-- The answers of the token endpoint to two visits are the same, or both grant a token: with the
same lifetime and refresh token, and with access tokens that tell the two gates of the same user.
What else there is in the documents does not matter. -/
inductive AnswersMatch (gate gate' : Gate) (record record' : Record) : Prop
  | same (h : record'.moment.tokenAnswer = record.moment.tokenAnswer)
  | tokens {token token' : Token} {profile : Profile CodeString}
      (hread : gate.tokenEndpoint.read record.moment.tokenAnswer = .ok token)
      (hread' : gate.tokenEndpoint.read record'.moment.tokenAnswer = .ok token')
      (hexpiry : token'.expiresIn = token.expiresIn)
      (hrefresh : token'.refreshToken = token.refreshToken)
      (htold : (gate.profile record.moment.now token.accessToken (errand record)).1 = .ok profile)
      (htold' : (gate'.profile record'.moment.now token'.accessToken (errand record')).1 =
        .ok profile)

/-- Two visits differ in nothing but tokens that tell of the same user. -/
structure Corresponds (gate gate' : Gate) (record record' : Record) : Prop where
  visit : record'.visit = record.visit
  now : record'.moment.now = record.moment.now
  keyAnswers : record'.moment.keyAnswers = record.moment.keyAnswers
  tokenAnswer : (gate.course record.moment.now record.visit).grant?.isSome →
    gate.AnswersMatch gate' record record'

/-- Where the token endpoint grants the same token in two visits, the two gates judge it alike: it
tells them of the same user, or they refuse it for the same reason. -/
def JudgesAlike (gate gate' : Gate) (record record' : Record) : Prop :=
  (gate.course record.moment.now record.visit).grant?.isSome →
    ∀ token, gate.tokenEndpoint.read record.moment.tokenAnswer = .ok token →
      gate.tokenEndpoint.read record'.moment.tokenAnswer = .ok token →
      (gate'.profile record'.moment.now token.accessToken (errand record')).1 =
        (gate.profile record.moment.now token.accessToken (errand record)).1

/-- Gates that do not verify tokens judge them alike on the same platform. -/
theorem judgesAlike_of_decoded {gate' : Gate} {record record' : Record}
    (hplatform : gate'.platform = gate.platform) (h : gate.verifier = none)
    (h' : gate'.verifier = none) : gate.JudgesAlike gate' record record' := by
  intro _ token _ _
  rw [profile_of_decoded h, profile_of_decoded h', hplatform]

/-- Tokens give the same session if they have the same lifetime and refresh token and tell of the
same user. -/
theorem obtain_result_of_tokens {keys keys' : Jwt.KeyStore} {token token' : Token}
    (hnow : moment'.now = moment.now)
    (hread : gate.tokenEndpoint.read moment.tokenAnswer = .ok token)
    (hread' : gate.tokenEndpoint.read moment'.tokenAnswer = .ok token')
    (hexpiry : token'.expiresIn = token.expiresIn)
    (hrefresh : token'.refreshToken = token.refreshToken)
    (htold : (gate.profile moment'.now token'.accessToken ⟨keys', moment'.keyAnswers, 0⟩).1 =
      (gate.profile moment.now token.accessToken ⟨keys, moment.keyAnswers, 0⟩).1)
    (grant : Grant) (previous : Option String) :
    (gate.obtain moment' keys' grant previous).result =
      (gate.obtain moment keys grant previous).result := by
  have hlifetime : gate.lifetime token' = gate.lifetime token := by
    simp only [lifetime, hexpiry]
  rw [hnow] at htold
  have hdraft : (gate.draft moment'.now token' ⟨keys', moment'.keyAnswers, 0⟩).1 =
      (gate.draft moment.now token ⟨keys, moment.keyAnswers, 0⟩).1 := by
    simp only [Gate.draft, htold, hlifetime, hnow]
  have haccept : gate.accept token' previous = gate.accept token previous := by
    funext draft
    simp only [accept, begin, session?, nextRefreshToken, hrefresh, hlifetime]
  rw [obtain_result, obtain_result, hread, hread']
  simp only [Result.mapError_ok, Except.bind, hdraft, haccept]

/-- The keys that remain are those that the verification of the granted token leaves. -/
theorem obtain_keys_of_read {keys : Jwt.KeyStore} {grant : Grant} {previous : Option String}
    {token : Token} (hendpoint : gate.tokenEndpoint.address?.isSome)
    (hread : gate.tokenEndpoint.read moment.tokenAnswer = .ok token) :
    (gate.obtain moment keys grant previous).keys =
      (gate.profile moment.now token.accessToken ⟨keys, moment.keyAnswers, 0⟩).2.store := by
  have hrequest : (gate.tokenEndpoint.request? grant).isSome :=
    (TokenEndpoint.isSome_request? ..).trans hendpoint
  obtain ⟨request, hrequest⟩ := Option.isSome_iff_exists.mp hrequest
  simp only [obtain, TokenEndpoint.ask, hrequest, hread]
  rfl

theorem keys_exchange (gate : Gate) (moment : Moment) (memory : GateMemory) (code : String)
    (verifier : Option String) (cookies : List Cookie) :
    (gate.exchange moment memory code verifier cookies).memory.keys =
      (gate.obtain moment memory.keys (.code code verifier) none).keys := by
  rw [exchange]
  dsimp only
  split <;> rfl

variable {record record' : Record}

/-- In visits that correspond, the provider gives the same session, or none for the same reason. -/
theorem obtained_of_corresponds
    (hcorresponds : gate.Corresponds (gate.withSecret secret) record record')
    (hjudges : gate.JudgesAlike (gate.withSecret secret) record record')
    (hasked : (gate.course record.moment.now record.visit).grant?.isSome) (grant : Grant)
    (previous : Option String) :
    (gate.obtain record'.moment record'.memory.keys grant previous).result =
      (gate.obtain record.moment record.memory.keys grant previous).result := by
  cases hcorresponds.tokenAnswer hasked with
  | same hsame =>
    cases hread : gate.tokenEndpoint.read record.moment.tokenAnswer with
    | error fault =>
      rw [obtain_result, obtain_result, hsame, hread]
      rfl
    | ok token =>
      have hread' : gate.tokenEndpoint.read record'.moment.tokenAnswer = .ok token := by
        rw [hsame, hread]
      exact @obtain_result_of_tokens gate _ _ _ _ _ _ hcorresponds.now hread hread' rfl rfl
        (hjudges hasked token hread hread') grant previous
  | tokens hread hread' hexpiry hrefresh htold htold' =>
    exact @obtain_result_of_tokens gate _ _ _ _ _ _ hcorresponds.now hread hread' hexpiry hrefresh
      (htold'.trans htold.symm) grant previous

/-- Visits that correspond come to outcomes that agree. -/
theorem agrees_step (hagrees : record.memory.Agrees record'.memory)
    (hcorresponds : gate.Corresponds (gate.withSecret secret) record record')
    (hjudges : gate.JudgesAlike (gate.withSecret secret) record record') :
    (gate.outcome record).Agrees ((gate.withSecret secret).outcome record') := by
  have hobtained := obtained_of_corresponds hcorresponds hjudges
  obtain ⟨hvisit, hnow, -, -⟩ := hcorresponds
  obtain ⟨memory, moment, visit⟩ := record
  obtain ⟨memory', moment', visit'⟩ := record'
  obtain rfl : visit' = visit := hvisit
  have hnow : moment'.now = moment.now := hnow
  simp only [outcome, step, course_withSecret, hnow] at hobtained ⊢
  cases hcourse : gate.course moment.now visit' with
  | pass => exact ⟨rfl, hagrees⟩
  | forward session cookies =>
    simp only [follow, hnow]
    exact agrees_forward moment.now hagrees session cookies
  | renew session =>
    rw [hcourse] at hobtained
    exact agrees_renew hagrees hnow (hobtained rfl _ _)
  | exchange code verifier cookies =>
    rw [hcourse] at hobtained
    exact agrees_exchange hagrees cookies (hobtained rfl _ _)
  | login cookies => exact agrees_leadToProvider hagrees cookies
  | deny fault cookies => exact ⟨rfl, hagrees⟩
  | stuck breakdown => exact ⟨rfl, hagrees⟩

/-- Runs whose visits correspond come to outcomes that agree, one by one. -/
theorem agrees_run (hagrees : memory.Agrees memory') {visits visits' : List (Moment × Visit)}
    (hcorresponds : List.Forall₂ (gate.Corresponds (gate.withSecret secret))
      (gate.history memory visits) ((gate.withSecret secret).history memory' visits'))
    (hjudges : List.Forall₂ (gate.JudgesAlike (gate.withSecret secret))
      (gate.history memory visits) ((gate.withSecret secret).history memory' visits')) :
    List.Forall₂ Outcome.Agrees (gate.run memory visits)
      ((gate.withSecret secret).run memory' visits') := by
  -- The induction is on the visits; that the memories agree is what each of them keeps.
  induction visits generalizing memory memory' visits' with
  | nil =>
    cases visits' with
    | nil => exact .nil
    | cons visit' visits' => cases hcorresponds
  | cons visit visits ih =>
    cases visits' with
    | nil => cases hcorresponds
    | cons visit' visits' =>
      obtain ⟨moment, visit⟩ := visit
      obtain ⟨moment', visit'⟩ := visit'
      obtain ⟨hfirst, hrest⟩ := List.forall₂_cons.mp hcorresponds
      obtain ⟨hjudgesFirst, hjudgesRest⟩ := List.forall₂_cons.mp hjudges
      have hstep := agrees_step hagrees hfirst hjudgesFirst
      exact .cons hstep (ih hstep.memory hrest hjudgesRest)

/-! ### Two tokens for one user -/

/-- The token document of a login with other tokens in it: the access token bears another
signature. -/
def sampleOtherToken : Token :=
  { tokenType := "bearer"
    accessToken := "e30.eyJlbWFpbCI6ImFAYi5jIn0.AQ"
    scope := some "openid"
    idToken := some "i" }

theorem ofToken_sampleOtherToken :
    Profile.ofToken .standard sampleOtherToken.accessToken =
      .ok (sampleSession.identity.map .text) := by
  have hheader : Json.ofBytes 990 (Utf8.encode ((Json.obj []).render Json.compact)) =
      .ok (.obj []) := Json.ofBytes_of_render (.obj []) rfl rfl (by decide +kernel)
  have hclaims : Json.ofBytes 990 (Utf8.encode (sampleClaims.render Json.compact)) =
      .ok sampleClaims := Json.ofBytes_of_render sampleClaims rfl rfl (by decide +kernel)
  have htoken : sampleOtherToken.accessToken =
      Jwt.compose (Utf8.encode ((Json.obj []).render Json.compact))
        (Utf8.encode (sampleClaims.render Json.compact)) [1] := by decide +kernel
  have hread : Jwt.read .standard sampleOtherToken.accessToken = .ok (.obj [], sampleClaims) := by
    rw [htoken]
    exact Jwt.read_compose hheader rfl rfl hclaims [1]
  rw [Profile.ofToken, hread]
  rfl

/-- The visits of a user who logs in and comes back, where the provider has granted the other
tokens. -/
def sampleOtherVisits : List (Moment × Visit) :=
  [(⟨0, TokenEndpoint.granting sampleOtherToken, []⟩, sampleCallback.visit),
    (sampleReturn.moment, sampleReturn.visit)]

theorem make_withSecret_sampleGate (secret : Option String) :
    make .standard { sampleSettings with clientSecret := secret } sampleMetadata false
      ⟨fun _ _ _ => 0⟩ = .ok ((sampleGate false).withSecret secret) := by
  rw [make_withSecret, make_sampleGate]
  rfl

theorem corresponds_sampleOtherVisits (secret : Option String) :
    List.Forall₂ ((sampleGate false).Corresponds ((sampleGate false).withSecret secret))
      ((sampleGate false).history {} sampleVisits)
      (((sampleGate false).withSecret secret).history {} sampleOtherVisits) := by
  have hmatch : (sampleGate false).AnswersMatch ((sampleGate false).withSecret secret)
      sampleCallback ⟨{}, ⟨0, TokenEndpoint.granting sampleOtherToken, []⟩, sampleCallback.visit⟩ :=
    .tokens (TokenEndpoint.read_granting sampleToken) (TokenEndpoint.read_granting sampleOtherToken)
      rfl rfl ofToken_sampleAccessToken ofToken_sampleOtherToken
  exact .cons ⟨rfl, rfl, rfl, fun _ => hmatch⟩ (.cons ⟨rfl, rfl, rfl, fun _ => .same rfl⟩ .nil)

/-! ### Keys that depend on the tokens before -/

section Keys

open Jwt Verifier

/-- The header of tokens that are signed with the secret under some id. -/
def sampleHeaderFor (id : String) : List (String × Json) :=
  [("alg", .str "HS256"), ("kid", .str id)]

/-- The bytes of the header. -/
def sampleHeaderBytesFor (id : String) : Bytes :=
  Utf8.encode ((Json.obj (sampleHeaderFor id)).render Json.compact)

/-- What is signed. -/
def sampleSignedFor (id : String) : Bytes :=
  Utf8.encode (String.ofList (signedChars (sampleHeaderBytesFor id) samplePayload))

/-- The signature, which is not to be computed. -/
@[irreducible]
def sampleSignatureFor (id : String) : Bytes := Hmac.sha256 sampleSecret (sampleSignedFor id)

/-- The token of one user that is signed with the secret under some id. -/
def sampleTokenFor (id : String) : Token :=
  { accessToken := compose (sampleHeaderBytesFor id) samplePayload (sampleSignatureFor id) }

/-- The verification of the token is the search for its key. -/
theorem verify_sampleTokenFor {id : String}
    (hheader : Json.ofBytes 990 (sampleHeaderBytesFor id) = .ok (.obj (sampleHeaderFor id)))
    (errand : Errand) :
    (∀ after, findKey .standard sampleNow (some (.text id)) 3 errand =
        (.ok (.secret sampleSecret), after) →
      sampleVerifier.verify sampleNow (sampleTokenFor id).accessToken errand =
        (.ok { sub := some (.text "s") }, after)) ∧
      ∀ failure after,
        findKey .standard sampleNow (some (.text id)) 3 errand = (.error failure, after) →
        sampleVerifier.verify sampleNow (sampleTokenFor id).accessToken errand =
          (.error failure, after) := by
  have hload : load sampleVerifier.platform (sampleTokenFor id).accessToken =
      .ok ⟨.obj (sampleHeaderFor id), samplePayload, sampleSignatureFor id, sampleSignedFor id⟩ :=
    load_compose hheader rfl rfl
  have hread : Jwt.read sampleVerifier.platform (sampleTokenFor id).accessToken =
      .ok (.obj (sampleHeaderFor id), .obj Verifier.sampleClaims) :=
    read_compose hheader rfl rfl ofBytes_samplePayload _
  have hkey : sampleVerifier.keyFor sampleNow (sampleTokenFor id).accessToken errand =
      findKey .standard sampleNow (some (.text id)) 3 errand := by
    rw [keyFor, if_neg (by decide), hread]
    rfl
  have hchecked : sampleVerifier.checkedClaims sampleNow "HS256" (.secret sampleSecret)
      ⟨.obj (sampleHeaderFor id), samplePayload, sampleSignatureFor id, sampleSignedFor id⟩ =
        .ok (.obj Verifier.sampleClaims) := by
    refine checkedClaims_eq_ok_iff.mpr
      ⟨checkSignature_eq_ok_iff.mpr ⟨.secret, .secret sampleSecret, rfl, rfl, ?_⟩,
        claims_eq_ok_iff.mpr ⟨_, rfl, ofBytes_samplePayload⟩, hold_sampleClaims⟩
    rw [isSignature, sampleSignatureFor, decide_eq_true_eq]
  rw [verify_of_checkHeader sampleNow errand hload rfl, hkey]
  constructor
  · intro after hfound
    simp only [hfound, Except.bind, hchecked, Result.mapError_ok]
    rfl
  · intro failure after hfound
    simp only [hfound, Except.bind]
    rfl

/-- What is known of the keys a minute after they were fetched: there was one, under another id. -/
def sampleKnownKeys : KeyStore :=
  ⟨some (sampleNow - 60000000, ⟨[⟨.str "m", .null, .secret sampleSecret⟩]⟩)⟩

/-- What is known of them after they have been fetched again. -/
def sampleFetchedKeys : KeyStore := ⟨some (sampleNow, sampleKeySet)⟩

/-- The token under the known id is accepted, and nothing is fetched. -/
theorem verify_known (answers : List KeyAnswer) :
    sampleVerifier.verify sampleNow (sampleTokenFor "m").accessToken
        ⟨sampleKnownKeys, answers, 0⟩ =
      (.ok { sub := some (.text "s") }, ⟨sampleKnownKeys, answers, 0⟩) := by
  have hheader : Json.ofBytes 990 (sampleHeaderBytesFor "m") = .ok (.obj (sampleHeaderFor "m")) :=
    Json.ofBytes_of_render (.obj (sampleHeaderFor "m")) rfl rfl (by decide +kernel)
  exact (verify_sampleTokenFor hheader _).1 _ rfl

theorem ofBytes_sampleHeaderBytesFor :
    Json.ofBytes 990 (sampleHeaderBytesFor "k") = .ok (.obj (sampleHeaderFor "k")) :=
  Json.ofBytes_of_render (.obj (sampleHeaderFor "k")) rfl rfl (by decide +kernel)

/-- For the token under the other id the keys are fetched again, and it is accepted. -/
theorem verify_unknown :
    sampleVerifier.verify sampleNow (sampleTokenFor "k").accessToken
        ⟨sampleKnownKeys, [sampleKeyAnswer], 0⟩ =
      (.ok { sub := some (.text "s") }, ⟨sampleFetchedKeys, [], 1⟩) := by
  have hfetch : Errand.fetch .standard ⟨sampleKnownKeys, [sampleKeyAnswer], 0⟩ sampleNow =
      (.ok sampleKeySet, ⟨sampleFetchedKeys, [], 1⟩) := by
    have hanswer : Errand.nextAnswer ⟨sampleKnownKeys, [sampleKeyAnswer], 0⟩ = sampleKeyAnswer :=
      rfl
    simp only [Errand.fetch, hanswer, ofAnswer_sampleKeyAnswer]
    rfl
  have hkey : Errand.key .standard ⟨sampleKnownKeys, [sampleKeyAnswer], 0⟩ sampleNow
      (some (.text "k")) =
        Errand.fetchedKey .standard ⟨sampleKnownKeys, [sampleKeyAnswer], 0⟩ sampleNow
          (some (.text "k")) := rfl
  have hfound : Errand.keyIn (some (.text "k")) sampleKeySet =
      .ok (some (.secret sampleSecret)) := rfl
  refine (verify_sampleTokenFor ofBytes_sampleHeaderBytesFor _).1 _ ?_
  simp only [findKey, hkey, Errand.fetchedKey, hfetch, Except.bind, hfound]

/-- After that it is accepted, and nothing is fetched. -/
theorem verify_fetched :
    sampleVerifier.verify sampleNow (sampleTokenFor "k").accessToken ⟨sampleFetchedKeys, [], 0⟩ =
      (.ok { sub := some (.text "s") }, ⟨sampleFetchedKeys, [], 0⟩) :=
  (verify_sampleTokenFor ofBytes_sampleHeaderBytesFor _).1 _ rfl

/-- If the provider does not answer, it is refused. -/
theorem verify_unreachable :
    ∃ fault after,
      sampleVerifier.verify sampleNow (sampleTokenFor "k").accessToken ⟨sampleKnownKeys, [], 0⟩ =
        (.error (.fault fault), after) :=
  ⟨_, _, (verify_sampleTokenFor ofBytes_sampleHeaderBytesFor _).2 _ _ rfl⟩

end Keys

/-- Settings that let tokens be verified. -/
def sampleVerifyingSettings : CheckedSettings :=
  { sampleSettings with tokenTrust := .verified, idStrategy := .sub }

/-- The gate for them. -/
def sampleVerifyingGate : Gate where
  platform := .standard
  plan := ⟨sampleVerifyingSettings, some "site.example"⟩
  metadata := Verifier.sampleProvider
  usePkce := false
  verifier := some Verifier.sampleVerifier
  entropy := ⟨fun _ _ _ => 0⟩

theorem make_sampleVerifyingGate :
    make .standard sampleVerifyingSettings Verifier.sampleProvider false ⟨fun _ _ _ => 0⟩ =
      .ok sampleVerifyingGate :=
  make_of_host (by decide +kernel) (congrArg (Except.map some) Verifier.make_sampleVerifier)

theorem tokenEndpoint_sampleVerifyingGate :
    sampleVerifyingGate.tokenEndpoint.address?.isSome := by
  decide +kernel

/-- The provider leads the user back with a code, and grants the token for it. -/
def sampleVerifyingMoment (id : String) (answers : List Jwt.KeyAnswer) : Moment :=
  ⟨Verifier.sampleNow, TokenEndpoint.granting (sampleTokenFor id), answers⟩

theorem course_sampleVerifyingGate :
    sampleVerifyingGate.course Verifier.sampleNow sampleCallback.visit = .exchange "c" none [] := by
  decide

section Exchanged

variable {id : String} {answers : List Jwt.KeyAnswer} {after : Jwt.Errand}

theorem profile_sampleVerifyingGate {result : Except TokenFailure (Profile CodeString)}
    (h : Verifier.sampleVerifier.verify Verifier.sampleNow (sampleTokenFor id).accessToken
      ⟨memory.keys, answers, 0⟩ = (result, after)) :
    sampleVerifyingGate.profile (sampleVerifyingMoment id answers).now
      (sampleTokenFor id).accessToken
      ⟨memory.keys, (sampleVerifyingMoment id answers).keyAnswers, 0⟩ = (result, after) := h

theorem step_sampleVerifyingGate :
    sampleVerifyingGate.step memory (sampleVerifyingMoment id answers) sampleCallback.visit =
      sampleVerifyingGate.exchange (sampleVerifyingMoment id answers) memory "c" none [] := by
  have hcourse : sampleVerifyingGate.course (sampleVerifyingMoment id answers).now
      sampleCallback.visit = .exchange "c" none [] := course_sampleVerifyingGate
  rw [step, hcourse, follow]

theorem read_sampleVerifyingMoment :
    sampleVerifyingGate.tokenEndpoint.read (sampleVerifyingMoment id answers).tokenAnswer =
      .ok (sampleTokenFor id) :=
  (TokenEndpoint.read_granting (sampleTokenFor id)).trans (if_pos rfl)

/-- The keys that the verification of the token leaves are remembered. -/
theorem keys_sampleVerifyingGate {result : Except TokenFailure (Profile CodeString)}
    (h : Verifier.sampleVerifier.verify Verifier.sampleNow (sampleTokenFor id).accessToken
      ⟨memory.keys, answers, 0⟩ = (result, after)) :
    (sampleVerifyingGate.step memory (sampleVerifyingMoment id answers)
      sampleCallback.visit).memory.keys = after.store := by
  rw [step_sampleVerifyingGate, keys_exchange,
    obtain_keys_of_read tokenEndpoint_sampleVerifyingGate read_sampleVerifyingMoment,
    profile_sampleVerifyingGate h]

/-- A user whose token is verified is led into the site. -/
theorem redirects_sampleVerifyingGate
    (h : Verifier.sampleVerifier.verify Verifier.sampleNow (sampleTokenFor id).accessToken
      ⟨memory.keys, answers, 0⟩ = (.ok { sub := some (.text "s") }, after)) :
    ∃ cookies, (sampleVerifyingGate.step memory (sampleVerifyingMoment id answers)
      sampleCallback.visit).result = .ok (.redirect "/" cookies true) := by
  have hprofile := congrArg Prod.fst (profile_sampleVerifyingGate h)
  have hobtained : (sampleVerifyingGate.obtain (sampleVerifyingMoment id answers) memory.keys
      (.code "c" none) none).result = .ok
        { identity := { sub := some "s" }
          expiresIn := 43200
          expiresAt := .ofInstant (Verifier.sampleNow + 43200000000)
          strategy := .sub } :=
    obtain_result_eq_ok_iff.mpr ⟨(TokenEndpoint.isSome_request? ..).trans
      tokenEndpoint_sampleVerifyingGate, sampleTokenFor id, read_sampleVerifyingMoment,
      ⟨{ sub := some (.text "s") }, .ofInstant (Verifier.sampleNow + 43200000000)⟩,
      draft_eq_ok_iff.mpr ⟨hprofile, rfl⟩, accept_eq_ok_iff.mpr ⟨by decide, rfl⟩⟩
  rw [step_sampleVerifyingGate, exchange]
  simp only [hobtained]
  exact ⟨_, rfl⟩

/-- A user whose token is refused is denied. -/
theorem denies_sampleVerifyingGate {fault : TokenFault}
    (h : Verifier.sampleVerifier.verify Verifier.sampleNow (sampleTokenFor id).accessToken
      ⟨memory.keys, answers, 0⟩ = (.error (.fault fault), after)) :
    ∃ denial cookies, (sampleVerifyingGate.step memory (sampleVerifyingMoment id answers)
      sampleCallback.visit).result = .ok (.deny denial cookies) := by
  have hprofile := congrArg Prod.fst (profile_sampleVerifyingGate h)
  obtain ⟨reason, hobtained⟩ := (@exists_obtain_eq_fault_iff sampleVerifyingGate
    (sampleVerifyingMoment id answers) memory.keys (.code "c" none) none
    tokenEndpoint_sampleVerifyingGate).mpr
      (.inr ⟨_, read_sampleVerifyingMoment, .inl ⟨fault, hprofile⟩⟩)
  rw [step_sampleVerifyingGate, exchange]
  simp only [hobtained]
  exact ⟨_, _, rfl⟩

end Exchanged

/-! ### Secrecy -/

/-- The client secret and the tokens stay between the gate and the provider. Of two gates whose
settings differ in nothing but the client secret and which begin with the same memory, the same is
seen in all visits, if the visits differ in nothing but tokens that tell of the same user: the same
decisions, down to the cookies and the words of a denial, and the same groups. If tokens are
verified, they have to be judged alike as well. -/
theorem secrets_stay {settings : CheckedSettings} {metadata : ProviderMetadata} {usePkce : Bool}
    {entropy : Entropy} {secret : Option String} {gate' : Gate}
    (hgate : make platform settings metadata usePkce entropy = .ok gate)
    (hgate' : make platform { settings with clientSecret := secret } metadata usePkce entropy =
      .ok gate')
    {visits visits' : List (Moment × Visit)}
    (hcorresponds : List.Forall₂ (gate.Corresponds gate') (gate.history memory visits)
      (gate'.history memory visits'))
    (hjudges : settings.tokenTrust = .verified →
      List.Forall₂ (gate.JudgesAlike gate') (gate.history memory visits)
        (gate'.history memory visits')) :
    (gate'.run memory visits').map Outcome.seen = (gate.run memory visits).map Outcome.seen := by
  obtain rfl : gate.withSecret secret = gate' := by
    rw [make_withSecret, hgate] at hgate'
    exact Except.ok.inj hgate'
  have hjudges : List.Forall₂ (gate.JudgesAlike (gate.withSecret secret))
      (gate.history memory visits) ((gate.withSecret secret).history memory visits') := by
    cases htrust : settings.tokenTrust with
    | verified => exact hjudges htrust
    | decoded =>
      have hdecoded : gate.verifier = none := by
        rw [← Option.not_isSome_iff_eq_none,
          isSome_of_verifierFor (verifierFor_of_make hgate).2, htrust]
        exact nofun
      exact hcorresponds.imp fun _ _ _ => judgesAlike_of_decoded rfl hdecoded hdecoded
  have hagrees := agrees_run (.refl memory) hcorresponds hjudges
  rw [← List.forall₂_eq_eq_eq, List.forall₂_map_left_iff, List.forall₂_map_right_iff]
  exact hagrees.flip.imp fun _ _ h => h.seen_eq

/-- With another secret and with other tokens, the login and the visit after it are seen to be the
same. -/
theorem secrets_stay_in_login :
    (sampleGate false).settings.clientSecret = some "secret" ∧
      make .standard { sampleSettings with clientSecret := some "other" } sampleMetadata false
        ⟨fun _ _ _ => 0⟩ = .ok ((sampleGate false).withSecret (some "other")) ∧
      sampleOtherToken ≠ sampleToken ∧
      (((sampleGate false).withSecret (some "other")).run {} sampleOtherVisits).map Outcome.seen =
        ((sampleGate false).run {} sampleVisits).map Outcome.seen ∧
      ((sampleGate false).run {} sampleVisits).map (·.result) =
        [.ok (.redirect "/" [(sampleGate false).keepSession {} sampleSession] true),
          .ok (.forward "a@b.c" sampleSession.identity [] [])] := by
  refine ⟨rfl, make_withSecret_sampleGate _, by decide, secrets_stay (make_sampleGate false)
    (make_withSecret_sampleGate _) (corresponds_sampleOtherVisits _) nofun, ?_⟩
  rw [← map_outcome_history, history_sampleVisits]
  simp only [List.map_append, List.map_cons, List.map_nil, result_sampleCallback,
    result_sampleReturn]
  rfl

/-- With the keys known that were fetched a minute ago, the user logs in twice at one time, and the
provider is asked for its keys in the first login only. The token that is granted in the first login
is signed with the key of some id, and the one in the second with the key that is not known. -/
def sampleKeyVisits (id : String) : List (Moment × Visit) :=
  [(sampleVerifyingMoment id [Verifier.sampleKeyAnswer], sampleCallback.visit),
    (sampleVerifyingMoment "k" [], sampleCallback.visit)]

/-- What is seen depends on the tokens if equal ones are judged differently. Before the second login
either gate has verified a token of the same user, one of them with a key that it knew. The other
one has fetched the keys for it, and so it knows the key for the second token, which the provider
does not publish then. -/
theorem seen_by_keys_at_hand :
    make .standard sampleVerifyingSettings Verifier.sampleProvider false ⟨fun _ _ _ => 0⟩ =
        .ok sampleVerifyingGate ∧
      List.Forall₂ (sampleVerifyingGate.Corresponds sampleVerifyingGate)
        (sampleVerifyingGate.history { keys := sampleKnownKeys } (sampleKeyVisits "m"))
        (sampleVerifyingGate.history { keys := sampleKnownKeys } (sampleKeyVisits "k")) ∧
      (sampleVerifyingGate.run { keys := sampleKnownKeys } (sampleKeyVisits "k")).map
          Outcome.seen ≠
        (sampleVerifyingGate.run { keys := sampleKnownKeys } (sampleKeyVisits "m")).map
          Outcome.seen := by
  refine ⟨make_sampleVerifyingGate, ?corresponds, fun hseen => ?different⟩
  case corresponds =>
    have hmatch : sampleVerifyingGate.AnswersMatch sampleVerifyingGate
        ⟨{ keys := sampleKnownKeys },
          sampleVerifyingMoment "m" [Verifier.sampleKeyAnswer], sampleCallback.visit⟩
        ⟨{ keys := sampleKnownKeys },
          sampleVerifyingMoment "k" [Verifier.sampleKeyAnswer], sampleCallback.visit⟩ :=
      .tokens read_sampleVerifyingMoment read_sampleVerifyingMoment rfl rfl
        (congrArg Prod.fst (@profile_sampleVerifyingGate { keys := sampleKnownKeys } _ _ _ _
          (verify_known _)))
        (congrArg Prod.fst (@profile_sampleVerifyingGate { keys := sampleKnownKeys } _ _ _ _
          verify_unknown))
    exact .cons ⟨rfl, rfl, rfl, fun _ => hmatch⟩ (.cons ⟨rfl, rfl, rfl, fun _ => .same rfl⟩ .nil)
  case different =>
    -- The first login leaves the known keys in one run, and those that it has fetched in the other.
    have hknown := @keys_sampleVerifyingGate { keys := sampleKnownKeys } _ _ _ _
      (verify_known [Verifier.sampleKeyAnswer])
    have hfetched := @keys_sampleVerifyingGate { keys := sampleKnownKeys } _ _ _ _ verify_unknown
    obtain ⟨fault, after, hrefused⟩ := verify_unreachable
    have hverified := verify_fetched
    dsimp only at hknown hfetched
    rw [← hknown] at hrefused
    rw [← hfetched] at hverified
    obtain ⟨denial, cookies, hdenied⟩ := denies_sampleVerifyingGate hrefused
    obtain ⟨cookies', hled⟩ := redirects_sampleVerifyingGate hverified
    simp only [sampleKeyVisits, run, List.map_cons, List.map_nil, List.cons.injEq, Outcome.seen,
      Prod.mk.injEq, and_true] at hseen
    obtain ⟨-, hsecond, -⟩ := hseen
    rw [hled, hdenied] at hsecond
    cases hsecond

end Gate

end LoginGate
