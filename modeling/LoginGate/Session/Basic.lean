import LoginGate.Json.Printer
import LoginGate.Session.Identity
import LoginGate.Time.Reader

/-!
# Sessions

What a browser keeps between two requests: the user's identity, perhaps a refresh token, and when
the identity is to be renewed.

## Main definitions

* `Session` : a session.
* `Session.isExpired?`, `Session.hasRefreshToken`, `Session.userId?` : what decides how it is used.
* `Session.reader`, `Session.toJson` : sessions in JSON.
-/

namespace LoginGate

/-- A session. -/
structure Session where
  identity : Identity
  refreshToken : Option String := none
  /-- The lifetime in seconds. -/
  expiresIn : Int
  /-- The last moment of the lifetime. -/
  expiresAt : Timestamp
  strategy : IdStrategy := .email
  deriving DecidableEq, Repr

namespace Session

/-- Whether the lifetime is over; unknown if the last moment has no zone. -/
def isExpired? (session : Session) (now : Instant) : Option Bool :=
  session.expiresAt.instant?.map (· < now)

/-- Whether there is a refresh token that is not blank. -/
def hasRefreshToken (session : Session) : Bool := session.refreshToken.any (!isBlankText ·)

/-- The id of the session's user. -/
def userId? (session : Session) : Option String := session.strategy.userId? session.identity

/-- Reads a timestamp. -/
def timestampReader : Schema.Reader Timestamp := fun json =>
  let found : Option (Except Timestamp.Fault Timestamp) :=
    match json with
    | .str s => some (Timestamp.ofText s)
    | .int i => if i.natAbs < Timestamp.maxNumber then some (Timestamp.ofNumber i) else none
    | .float x => some (Timestamp.ofFloat x)
    | _ => none
  match found with
  | some (.ok t) => .valid t
  | some (.error .notADate) => .fail .unreadableDate
  | some (.error .outOfRange) => .fail .dateOutOfRange
  | none => .fail .notDate

/-- Reads a session. -/
def reader : Schema.Reader Session :=
  Schema.object fun json =>
    Session.mk <$> Schema.required "identity" Identity.reader json <*>
      Schema.optional "refresh_token" Schema.string json <*>
      Schema.required "expires_in" Schema.integer json <*>
      Schema.required "expires_at" timestampReader json <*>
      Schema.withDefault "id_strategy" .email (Schema.oneOf IdStrategy.named) json

/-- A session in JSON. -/
def toJson (session : Session) : Json :=
  .obj [("identity", session.identity.toJson),
    ("refresh_token", Identity.textJson session.refreshToken),
    ("expires_in", .int session.expiresIn), ("expires_at", .str session.expiresAt.text),
    ("id_strategy", .str session.strategy.name)]

/-- A session as a JSON document. -/
def text (session : Session) : String := session.toJson.render Json.compact

end Session

end LoginGate
