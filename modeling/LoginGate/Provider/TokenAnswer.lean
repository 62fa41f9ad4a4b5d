import LoginGate.Breakdown
import LoginGate.Session.Basic
import LoginGate.Url.Web

/-!
# Answers of the token endpoint

The endpoint answers with a token or with an error, and both are objects.  Which of the two a
document is shows in the members that it has.

## Main definitions

* `Token`, `TokenError` : the two kinds of documents.
* `TokenAnswer.reader` : reads either.
-/

namespace LoginGate

/-- A token document. -/
structure Token where
  tokenType : String := "Bearer"
  accessToken : String
  /-- The lifetime of the access token in seconds. -/
  expiresIn : Option Int := none
  refreshToken : Option String := none
  scope : Option String := none
  idToken : Option String := none
  deriving DecidableEq, Repr

namespace Token

/-- The names of the members. -/
def fields : List String :=
  ["token_type", "access_token", "expires_in", "refresh_token", "scope", "id_token"]

/-- Reads a token document. -/
def reader : Schema.Reader Token :=
  Schema.object fun json =>
    Token.mk <$> Schema.withDefault "token_type" "Bearer" Schema.string json <*>
      Schema.required "access_token" Schema.string json <*>
      Schema.optional "expires_in" Schema.integer json <*>
      Schema.optional "refresh_token" Schema.string json <*>
      Schema.optional "scope" Schema.string json <*>
      Schema.optional "id_token" Schema.string json

/-- When the access token expires, if the document tells: counted from now. -/
def expiry (token : Token) (now : Instant) : Except Breakdown (Option Timestamp) :=
  match token.expiresIn with
  | none => .ok none
  | some seconds =>
    match Timestamp.after? now seconds with
    | some expiry => .ok (some expiry)
    | none => .error .lifetime

/-- A token document in JSON. -/
def toJson (token : Token) : Json :=
  .obj [("token_type", .str token.tokenType), ("access_token", .str token.accessToken),
    ("expires_in", (token.expiresIn.map Json.int).getD .null),
    ("refresh_token", Identity.textJson token.refreshToken),
    ("scope", Identity.textJson token.scope), ("id_token", Identity.textJson token.idToken)]

end Token

/-- An error document. -/
structure TokenError where
  error : String
  description : Option String := none
  /-- The address of a page about the error. -/
  uri : Option String := none
  deriving DecidableEq, Repr

namespace TokenError

/-- The names of the members. -/
def fields : List String := ["error", "error_description", "error_uri"]

/-- Reads a web address. -/
def webAddress : Schema.Reader String
  | .str s =>
    match Web.normal s with
    | .ok url => .valid url
    | .error .tooLong => .fail .addressTooLong
    | .error .unreadable => .fail .unreadableAddress
    | .error .otherScheme => .fail .addressScheme
  | _ => .fail .notAddress

/-- Reads an error document. -/
def reader : Schema.Reader TokenError :=
  Schema.object fun json =>
    TokenError.mk <$> Schema.required "error" Schema.string json <*>
      Schema.optional "error_description" Schema.string json <*>
      Schema.optional "error_uri" webAddress json

/-- An error document in JSON. -/
def toJson (error : TokenError) : Json :=
  .obj [("error", .str error.error), ("error_description", Identity.textJson error.description),
    ("error_uri", Identity.textJson error.uri)]

end TokenError

/-- A document of either kind. -/
inductive TokenAnswer where
  | granted (token : Token)
  | refused (error : TokenError)
  deriving DecidableEq, Repr

namespace TokenAnswer

/-- The issues of a kind that was tried. -/
def tried (kind : String) (issues : List Schema.Issue) : List Schema.Issue :=
  issues.map fun issue => { issue with path := .field kind :: issue.path }

/-- Reads a document of either kind.  Of two possible readings the one that has more of its members
counts, and the token if both have as many. -/
def reader : Schema.Reader TokenAnswer := fun json =>
  match Token.reader json, TokenError.reader json with
  | .valid token, .valid error =>
    if Schema.countFields Token.fields json < Schema.countFields TokenError.fields json then
      .valid (.refused error)
    else .valid (.granted token)
  | .valid token, .invalid _ => .valid (.granted token)
  | .invalid _, .valid error => .valid (.refused error)
  | .invalid issues, .invalid more =>
    .invalid (tried "TokenResponse" issues ++ tried "TokenErrorResponse" more)

/-- A document of either kind in JSON. -/
def toJson : TokenAnswer → Json
  | .granted token => token.toJson
  | .refused error => error.toJson

end TokenAnswer

end LoginGate
