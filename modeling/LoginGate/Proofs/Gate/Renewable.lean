import LoginGate.Proofs.Gate.Renewal

/-!
# Sessions that stay renewable

A session that is over is renewed with its refresh token, and the new session needs one in turn.
The token document may bring another refresh token. If it brings none, or an empty one, the previous
one is kept. A blank one takes its place, however, and a session with a blank refresh token counts
as one without. So a session can be renewed again and again, unless some document brings a blank
refresh token: that document loses the one that was there.

## Main definitions

* `Token.bringsBlank` : a token document brings a blank refresh token.
* `Renewal`, `Renewal.IsOf` : a renewal of a session that succeeds.
* `Renewal.IsChain` : renewals one after the other.

## Main results

* `Renewal.hasRefreshToken_of_isOf` : whether a renewed session can be renewed.
* `Renewal.sealed_iff_isOf` : what is renewed in a visit is what the browser is given to keep.
* `Renewal.stays_renewable_iff` : when all sessions along a chain of renewals can be renewed.
-/

namespace LoginGate

/-- A token document brings a refresh token that is not empty but blank. -/
def Token.bringsBlank (token : Token) : Bool :=
  token.refreshToken.any fun text => !text.isEmpty && isBlankText text

/-- A usable refresh token stays one unless a blank one takes its place. -/
theorem Gate.any_nextRefreshToken {token : Token} {previous : Option String}
    (h : previous.any (!isBlankText ·)) :
    (nextRefreshToken token previous).any (!isBlankText ·) = !token.bringsBlank := by
  rw [nextRefreshToken, Token.bringsBlank]
  cases token.refreshToken with
  | none => exact h
  | some text =>
    cases hempty : text.isEmpty with
    | true => simpa [hempty] using h
    | false => simp [hempty]

/-- A visit, the token document that the provider gives in it, and the session that is made of the
document. -/
structure Renewal where
  record : Record
  token : Token
  renewed : Session

namespace Renewal

variable {gate : Gate} {session : Session} {renewal : Renewal} {renewals : List Renewal}

/-- A session is renewed: for its refresh token the provider gives a token document in the visit,
and the new session is made of that. -/
structure IsOf (gate : Gate) (session : Session) (renewal : Renewal) : Prop where
  granted : gate.tokenEndpoint.read renewal.record.moment.tokenAnswer = .ok renewal.token
  obtained : (gate.obtained renewal.record (.refresh (session.refreshToken.getD ""))
    session.refreshToken).result = .ok renewal.renewed

/-- Renewals one after the other, each of the session that the one before it has given. -/
inductive IsChain (gate : Gate) : Session → List Renewal → Prop
  | nil {session : Session} : IsChain gate session []
  | cons {session : Session} {renewal : Renewal} {renewals : List Renewal}
      (hfirst : IsOf gate session renewal) (hrest : IsChain gate renewal.renewed renewals) :
      IsChain gate session (renewal :: renewals)

/-! ### One renewal -/

/-- A renewed session is made of the document of the renewal. -/
theorem madeOf_of_isOf (h : IsOf gate session renewal) :
    gate.MadeOf renewal.record.moment renewal.record.memory.keys session.refreshToken renewal.token
      renewal.renewed := by
  obtain ⟨token, hmade⟩ := Gate.madeOf_of_obtain h.obtained
  cases hmade.read.symm.trans h.granted
  exact hmade

/-- If a session can be renewed, the session that comes of it can be renewed too, unless the
document has brought a blank refresh token. -/
theorem hasRefreshToken_of_isOf (h : IsOf gate session renewal)
    (hrefresh : session.hasRefreshToken) :
    renewal.renewed.hasRefreshToken = !renewal.token.bringsBlank := by
  rw [Session.hasRefreshToken, (madeOf_of_isOf h).refreshToken]
  exact Gate.any_nextRefreshToken hrefresh

/-- A visit that is to renew a session gives the browser a new session to keep exactly if the
renewal succeeds, and then it is the renewed one. -/
theorem sealed_iff_isOf
    (hrenews : gate.Renews renewal.record.moment.now renewal.record.visit session)
    (hread : gate.tokenEndpoint.read renewal.record.moment.tokenAnswer = .ok renewal.token) :
    gate.sealed? renewal.record = some (.session renewal.renewed) ↔
      IsOf gate session renewal := by
  have hcourse := Gate.course_eq_renew_iff.mpr hrenews
  constructor
  · intro hsealed
    obtain ⟨grant, hgrant, hresult⟩ := Gate.sealed_session hsealed
    rw [hcourse] at hgrant hresult
    cases hgrant
    exact ⟨hread, hresult⟩
  · rintro ⟨-, hresult⟩
    simp only [Gate.sealed?, hcourse, hresult]

/-- In a visit that is to renew a session, the session that the browser is given to keep can be
renewed in turn, unless the document has brought a blank refresh token. -/
theorem hasRefreshToken_of_sealed
    (hrenews : gate.Renews renewal.record.moment.now renewal.record.visit session)
    (hread : gate.tokenEndpoint.read renewal.record.moment.tokenAnswer = .ok renewal.token)
    (hsealed : gate.sealed? renewal.record = some (.session renewal.renewed)) :
    renewal.renewed.hasRefreshToken = !renewal.token.bringsBlank :=
  hasRefreshToken_of_isOf ((sealed_iff_isOf hrenews hread).mp hsealed) hrenews.token

/-! ### A refresh token that is kept, one that is replaced and one that is lost -/

/-- A session is renewed at some time by a document that may bring another refresh token. -/
def sample (session : Session) (now : Instant) (given : Option String) : Renewal where
  record :=
    { memory := {}
      moment := ⟨now, TokenEndpoint.granting { Gate.sampleToken with refreshToken := given }, []⟩
      visit :=
        { cookies := [("OIDC_AUTH_SESSION",
            session.toCookieValue Gate.sampleSettings.key (List.replicate 12 0))] } }
  token := { Gate.sampleToken with refreshToken := given }
  renewed :=
    { Gate.sampleSession with
      refreshToken :=
        Gate.nextRefreshToken { Gate.sampleToken with refreshToken := given } session.refreshToken
      expiresAt := .ofInstant (now + 43200 * microsPerSecond) }

theorem isOf_sample (session : Session) {now : Instant} (given : Option String)
    (h : Timestamp.inRange (now + 43200 * microsPerSecond)) :
    IsOf (Gate.sampleGate false) session (sample session now given) where
  granted := TokenEndpoint.read_granting _
  obtained := by
    refine Gate.obtain_result_eq_ok_iff.mpr
      ⟨(TokenEndpoint.isSome_request? ..).trans Gate.tokenEndpoint_sampleGate, _,
        TokenEndpoint.read_granting _,
        ⟨Gate.sampleSession.identity.map .text, .ofInstant (now + 43200 * microsPerSecond)⟩,
        Gate.draft_eq_ok_iff.mpr ⟨?_, Timestamp.after?_eq_some_iff.mpr ⟨h, rfl⟩⟩,
        Gate.accept_eq_ok_iff.mpr ⟨?_, Gate.session?_eq_some_iff.mpr ⟨rfl, rfl⟩⟩⟩
    · exact Gate.ofToken_sampleAccessToken
    · change (Gate.sampleSettings.idStrategy.userId?
        ((Gate.sampleSession.identity.map .text).map CodeString.shown)).isSome
      decide

/-- The session is renewed twice. The first document brings an empty refresh token, and the second
one another. -/
def samples : List Renewal :=
  let first := sample Gate.sampleRenewable 43200000001 (some "")
  [first, sample first.renewed 86400000002 (some "s")]

theorem isChain_samples : IsChain (Gate.sampleGate false) Gate.sampleRenewable samples :=
  .cons (isOf_sample _ _ (by decide)) (.cons (isOf_sample _ _ (by decide)) .nil)

/-! ### Chains of renewals -/

/-- Along a chain of renewals every session can be renewed exactly if no document has brought a
blank refresh token. Whatever else the documents bring, no refresh token, an empty one or another
one, it is never lost. -/
theorem stays_renewable_iff (hchain : IsChain gate session renewals)
    (hrefresh : session.hasRefreshToken) :
    (∀ renewal ∈ renewals, renewal.renewed.hasRefreshToken) ↔
      ∀ renewal ∈ renewals, renewal.token.bringsBlank = false := by
  induction hchain with
  | nil => simp
  | @cons session renewal renewals hfirst hrest ih =>
    have hone := hasRefreshToken_of_isOf hfirst hrefresh
    rw [List.forall_mem_cons, List.forall_mem_cons]
    cases hblank : renewal.token.bringsBlank with
    | true => simp [hone, hblank]
    | false =>
      have hkept : renewal.renewed.hasRefreshToken := by rw [hone, hblank, Bool.not_false]
      simp [hkept, ih hkept]

/-- The session can be renewed after the empty refresh token, with the old one, and after the other
one. -/
theorem stays_renewable_iff_of_samples :
    IsChain (Gate.sampleGate false) Gate.sampleRenewable samples ∧
      Gate.sampleRenewable.hasRefreshToken ∧
      (∀ renewal ∈ samples, renewal.token.bringsBlank = false) ∧
      ∀ renewal ∈ samples, renewal.renewed.hasRefreshToken := by
  have hkept : ∀ renewal ∈ samples, renewal.token.bringsBlank = false := by decide
  exact ⟨isChain_samples, by decide, hkept,
    (stays_renewable_iff isChain_samples (by decide)).mpr hkept⟩

/-- A renewal that succeeds can lose the refresh token: a blank one takes the place of the one that
was there. -/
theorem loses_refresh_token :
    Gate.make .standard Gate.sampleSettings Gate.sampleMetadata false ⟨fun _ _ _ => 0⟩ =
        .ok (Gate.sampleGate false) ∧
      Gate.sampleRenewable.hasRefreshToken ∧
      IsOf (Gate.sampleGate false) Gate.sampleRenewable
        (sample Gate.sampleRenewable 43200000001 (some " ")) ∧
      (sample Gate.sampleRenewable 43200000001 (some " ")).renewed.hasRefreshToken = false :=
  ⟨Gate.make_sampleGate false, by decide, isOf_sample _ _ (by decide), by decide⟩

end Renewal

end LoginGate
