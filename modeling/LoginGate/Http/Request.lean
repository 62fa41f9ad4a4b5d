import LoginGate.Http.Agent
import LoginGate.Url.Form

/-!
# Requests to the provider

## Main definitions

* `Http.Request` : a request.
* `Http.get?`, `Http.post?` : requests to an address, if they can be sent there.
-/

namespace LoginGate.Http

/-- The two methods in use. -/
inductive Method where
  | get
  | post
  deriving DecidableEq, Repr

/-- The name of a method. -/
def Method.name : Method → String
  | .get => "GET"
  | .post => "POST"

/-- A request. -/
structure Request where
  method : Method
  url : String
  headers : List (String × String)
  body : String
  timeout : Seconds
  deriving DecidableEq, Repr

/-- A request for a JSON document. -/
def get? (agent : Agent) (url : String) (timeout : Seconds) : Option Request :=
  (agent.address? url timeout).map fun url =>
    ⟨.get, url, [("accept", "application/json")], "", timeout⟩

/-- A request that brings a form and wants a fresh JSON document. -/
def post? (agent : Agent) (url : String) (form : List (String × String)) (timeout : Seconds) :
    Option Request :=
  (agent.address? url timeout).map fun url =>
    { method := .post
      url
      headers := [("accept", "application/json"), ("cache-control", "no-cache"),
        ("content-type", "application/x-www-form-urlencoded")]
      body := Form.encode form
      timeout }

end LoginGate.Http
