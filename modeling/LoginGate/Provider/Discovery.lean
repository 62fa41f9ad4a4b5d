import LoginGate.Breakdown
import LoginGate.Http.Answer
import LoginGate.Http.Request
import LoginGate.Provider.Metadata

/-!
# Discovery

A provider publishes its document at a well-known place under its issuer address.

## Main definitions

* `wellKnownUrl` : the place.
* `DiscoveryFault` : why there is no document.
* `Discovery.read` : the document of an answer.
* `Discovery.ask` : what comes of asking a provider for its document.
-/

namespace LoginGate

/-- Without the slashes at the end. -/
def dropTrailingSlashes (cs : List Char) : List Char := (cs.reverse.dropWhile (· = '/')).reverse

/-- The place of a provider's document. -/
def wellKnownUrl (issuerUri : String) : String :=
  String.ofList (dropTrailingSlashes issuerUri.toList) ++ "/.well-known/openid-configuration"

/-- Why there is no document. -/
inductive DiscoveryFault where
  /-- The answer is no success. -/
  | refused (url : String) (status : Int) (reason : String)
  /-- No answer came. -/
  | unreachable (url why : String)
  /-- The answer is no document of a provider. -/
  | unreadable (url : String) (issues : List Schema.Issue)
  deriving DecidableEq, Repr

/-- The words for a fault. -/
def DiscoveryFault.message : DiscoveryFault → String
  | .refused url status reason =>
    "Unable to retrieve the provider configuration from " ++ url ++ ": " ++ toString status ++
      " " ++ reason
  | .unreachable url why =>
    "Unable to retrieve the provider configuration from " ++ url ++ ": " ++ why
  | .unreadable url _ => "Invalid provider configuration returned by " ++ url

namespace Discovery

/-- The request for a provider's document. -/
def request? (agent : Http.Agent) (issuerUri : String) (timeout : Seconds) : Option Http.Request :=
  Http.get? agent (wellKnownUrl issuerUri) timeout

/-- The document of an answer. -/
def read (issuerUri : String) (answer : Http.Answer) : Except DiscoveryFault ProviderMetadata :=
  let url := wellKnownUrl issuerUri
  match answer with
  | .none why => .error (.unreachable url why)
  | .message message =>
    if !message.isSuccess then .error (.refused url message.status message.reason)
    else
      match Schema.document ProviderMetadata.reader message.body with
      | .valid metadata => .ok metadata
      | .invalid issues => .error (.unreadable url issues)

/-- What comes of asking a provider: its document, and the requests that were sent. -/
structure Asked where
  result : Except (Failure DiscoveryFault) ProviderMetadata
  requests : List Http.Request

/-- Asks a provider, who would answer in the given way. -/
def ask (agent : Http.Agent) (issuerUri : String) (timeout : Seconds) (answer : Http.Answer) :
    Asked :=
  match request? agent issuerUri timeout with
  | none => ⟨.error (.breakdown .requestAddress), []⟩
  | some request => ⟨(read issuerUri answer).mapError .fault, [request]⟩

end Discovery

end LoginGate
