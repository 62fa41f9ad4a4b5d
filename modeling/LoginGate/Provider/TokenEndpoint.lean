import LoginGate.Breakdown
import LoginGate.Denial
import LoginGate.Http.Answer
import LoginGate.Http.Request
import LoginGate.Provider.TokenAnswer

/-!
# The token endpoint

## Main definitions

* `Grant` : what a token is asked for with.
* `TokenEndpoint` : the endpoint, and who asks it.
* `TokenEndpoint.address?` : where requests to the endpoint go.
* `TokenEndpoint.parameters`, `TokenEndpoint.request?` : the form and the request for a grant.
* `TokenEndpoint.read` : the token of an answer, or why there is none.
* `TokenEndpoint.ask` : what comes of asking the endpoint.
-/

namespace LoginGate

/-- What a token is asked for with. -/
inductive Grant where
  /-- The code of a login, with the code verifier if the attempt was bound. -/
  | code (code : String) (verifier : Option String)
  /-- A refresh token. -/
  | refresh (token : String)
  deriving DecidableEq, Repr

/-- Why there is no token. -/
inductive TokenEndpointFault where
  /-- No answer came. -/
  | unreachable (why : String)
  /-- The answer is no success. -/
  | refused (status : Int) (reason body : String)
  /-- The answer is no document. -/
  | unreadable
  /-- The answer is an error document. -/
  | error (error : TokenError)
  deriving DecidableEq, Repr

/-- How a request is denied for want of a token. -/
def TokenEndpointFault.denial : TokenEndpointFault → Denial
  | .unreachable why =>
    .make 502 "server_error" ("Unable to reach the token endpoint (" ++ why ++ ")")
  | .refused status reason body =>
    .make status "authentication_failed"
      (toString status ++ " " ++ reason ++ " - Unable to retrieve an access token (" ++ body ++ ")")
  | .unreadable => .make 502 "authentication_failed" "Invalid response from the token endpoint"
  | .error e => .make 401 e.error (e.description.getD "")

/-- The endpoint, and who asks it. -/
structure TokenEndpoint where
  /-- What sends the requests. -/
  agent : Http.Agent
  url : String
  clientId : String
  redirectUri : String
  clientSecret : Option String
  timeout : Seconds

namespace TokenEndpoint

/-- A parameter that is left out when its value is empty. -/
def unlessEmpty (name : String) (value : Option String) : List (String × String) :=
  match value with
  | some text => if text.isEmpty then [] else [(name, text)]
  | none => []

/-- The form for a grant. -/
def parameters (endpoint : TokenEndpoint) : Grant → List (String × String)
  | .code code verifier =>
    [("grant_type", "authorization_code"), ("client_id", endpoint.clientId),
      ("redirect_uri", endpoint.redirectUri), ("code", code)] ++
      unlessEmpty "client_secret" endpoint.clientSecret ++ unlessEmpty "code_verifier" verifier
  | .refresh token =>
    [("grant_type", "refresh_token"), ("client_id", endpoint.clientId),
      ("refresh_token", token)] ++ unlessEmpty "client_secret" endpoint.clientSecret

/-- The address that requests to the endpoint bear, if they can be sent. -/
def address? (endpoint : TokenEndpoint) : Option String :=
  endpoint.agent.address? endpoint.url endpoint.timeout

/-- The request for a grant, if requests can be sent to the endpoint. -/
def request? (endpoint : TokenEndpoint) (grant : Grant) : Option Http.Request :=
  Http.post? endpoint.agent endpoint.url (endpoint.parameters grant) endpoint.timeout

/-- The token of an answer.  Whoever is refused is told so in the words of the answer, for which its
body has to be text. -/
def read (endpoint : TokenEndpoint) : Http.Answer → Except (Failure TokenEndpointFault) Token
  | .none why => .error (.fault (.unreachable why))
  | .message message =>
    if message.status ≠ 200 then
      match message.text? endpoint.agent with
      | some body => .error (.fault (.refused message.status message.reason body))
      | none => .error (.breakdown .bodyText)
    else
      match Schema.document TokenAnswer.reader message.body with
      | .invalid _ => .error (.fault .unreadable)
      | .valid (.refused error) => .error (.fault (.error error))
      | .valid (.granted token) => .ok token

/-- What comes of asking the endpoint: a token, and the requests that were sent. -/
structure Asked where
  result : Except (Failure TokenEndpointFault) Token
  requests : List Http.Request

/-- Asks the endpoint, which would answer in the given way. -/
def ask (endpoint : TokenEndpoint) (grant : Grant) (answer : Http.Answer) : Asked :=
  match endpoint.request? grant with
  | none => ⟨.error (.breakdown .requestAddress), []⟩
  | some request => ⟨endpoint.read answer, [request]⟩

end TokenEndpoint

end LoginGate
