import LoginGate.Gate.Basic
import LoginGate.Gate.Fault

/-!
# Sessions from the provider

A session begins, and is renewed, with a token.  The access token tells who the user is; the token
document tells for how long, and how to renew the session.

## Main definitions

* `Gate.profile` : what an access token tells of a user.
* `Gate.draft`, `Gate.persist` : what a token document grants, and the session that it begins.
* `Gate.obtain` : the session that the token endpoint gives for a grant.
-/

namespace LoginGate

namespace Gate

/-- What an access token tells of a user. -/
def profile (gate : Gate) (now : Instant) (accessToken : String) (errand : Jwt.Errand) :
    Except TokenFailure (Profile CodeString) × Jwt.Errand :=
  match gate.verifier with
  | none => (Profile.ofToken gate.platform accessToken, errand)
  | some verifier => verifier.verify now accessToken errand

/-- The lifetime of a session in seconds: as long as the token says, if it says so, and else as long
as the cookie. -/
def lifetime (gate : Gate) (token : Token) : Int :=
  match token.expiresIn with
  | some seconds => if 0 < seconds then seconds else gate.settings.cookieMaxAgeSeconds
  | none => gate.settings.cookieMaxAgeSeconds

/-- The refresh token that counts: a new one if there is one, and else the previous one. -/
def nextRefreshToken (token : Token) (previous : Option String) : Option String :=
  match token.refreshToken with
  | some text => if text.isEmpty then previous else some text
  | none => previous

/-- What a token document grants: somebody may be here until some time. -/
structure Draft where
  profile : Profile CodeString
  expiry : Timestamp
  deriving DecidableEq, Repr

/-- What a token document grants, unless it ends beyond the last date. -/
def draft (gate : Gate) (now : Instant) (token : Token) (errand : Jwt.Errand) :
    Except TokenFailure Draft × Jwt.Errand :=
  let (profile, errand) := gate.profile now token.accessToken errand
  (profile.bind fun profile =>
    match Timestamp.after? now (gate.lifetime token) with
    | some expiry => .ok ⟨profile, expiry⟩
    | none => .error (.breakdown .lifetime), errand)

/-- Whether a draft is for a user with an id. -/
def hasUser (gate : Gate) (draft : Draft) : Bool :=
  (gate.settings.idStrategy.userId? (draft.profile.map CodeString.shown)).isSome

/-- The session of a draft, if all of its strings are texts. -/
def session? (gate : Gate) (token : Token) (previous : Option String) (draft : Draft) :
    Option Session :=
  (draft.profile.mapM? CodeString.text?).map fun identity =>
    { identity
      refreshToken := nextRefreshToken token previous
      expiresIn := gate.lifetime token
      expiresAt := draft.expiry
      strategy := gate.settings.idStrategy }

/-- The session of a draft that begins; it has to be written down. -/
def begin {F : Type} (gate : Gate) (token : Token) (previous : Option String) (draft : Draft) :
    Except (Failure F) Session :=
  match gate.session? token previous draft with
  | some session => .ok session
  | none => .error (.breakdown .unpairedSurrogate)

/-- The session that a token document begins, for whomever it is. -/
def persist (gate : Gate) (now : Instant) (token : Token) (previous : Option String)
    (errand : Jwt.Errand) : Except TokenFailure Session × Jwt.Errand :=
  let (draft, errand) := gate.draft now token errand
  (draft.bind (gate.begin token previous), errand)

/-- The session of a user with an id that a draft begins. -/
def accept (gate : Gate) (token : Token) (previous : Option String) (draft : Draft) :
    Except (Failure LoginFault) Session :=
  if !gate.hasUser draft then .error (.fault (.noUser gate.settings.idStrategy))
  else gate.begin token previous draft

/-- What comes of asking for a session. -/
structure Obtained where
  result : Except (Failure LoginFault) Session
  keys : Jwt.KeyStore
  requests : List Http.Request := []
  fetches : Nat := 0

/-- A failure to get a token as a failure to log in. -/
def endpointFailure : Failure TokenEndpointFault → Failure LoginFault
  | .fault fault => .fault (.endpoint fault)
  | .breakdown breakdown => .breakdown breakdown

/-- A refusal of a token as a failure to log in. -/
def tokenFailure : TokenFailure → Failure LoginFault
  | .fault fault => .fault (.token fault)
  | .breakdown breakdown => .breakdown breakdown

/-- Asks the token endpoint for the session of a user. -/
def obtain (gate : Gate) (moment : Moment) (keys : Jwt.KeyStore) (grant : Grant)
    (previous : Option String) : Obtained :=
  let asked := gate.tokenEndpoint.ask grant moment.tokenAnswer
  match asked.result with
  | .error failure =>
    { result := .error (endpointFailure failure), keys, requests := asked.requests }
  | .ok token =>
    let (draft, errand) := gate.draft moment.now token ⟨keys, moment.keyAnswers, 0⟩
    { result := (draft.mapError tokenFailure).bind (gate.accept token previous)
      keys := errand.store
      requests := asked.requests
      fetches := errand.fetches }

end Gate

end LoginGate
