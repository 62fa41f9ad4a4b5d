import LoginGate.Gate.Decision
import LoginGate.Site.CookieHeader
import LoginGate.Url.Form
import LoginGate.Url.Reference

/-!
# Requests to the site

The application is reached by the path of a request.  The gate looks at the path of the whole
address, so that a character which ends a path there is written as a code first.

## Main definitions

* `Site.Request` : a request to the site.
* `Site.Request.visit?` : what the gate looks at.
-/

namespace LoginGate.Site

/-- A request to the site. -/
structure Request where
  host : String
  path : String := "/"
  /-- The query as it was sent. -/
  query : Bytes := []
  /-- The headers with cookies. -/
  cookieHeaders : List String := []
  deriving DecidableEq, Repr

namespace Request

/-- A character of a path in the whole address. -/
def addressChar (c : Char) : List Char :=
  if c = '?' || c = '#' || c = '\\' then Percent.encodeChar (fun _ => false) c else [c]

/-- The whole address without the query. -/
def address (request : Request) : String :=
  "https://" ++ request.host ++ String.ofList (request.path.toList.flatMap addressChar)

/-- Whether a character ends the path of an address. -/
def endsPath (c : Char) : Bool := c = '?' || c = '#'

/-- The path of the whole address. -/
def addressPath? (request : Request) : Option String :=
  (Url.split? request.address).map fun parts =>
    String.ofList (parts.rest.takeWhile (!endsPath ·))

/-- The names in the query, each with its last value; every byte of the query is a character. -/
def parameters (request : Request) : NameMap :=
  .ofPairs (Form.decode (request.query.map fun b => Char.ofNat b.toNat))

/-- What the gate looks at, unless the address cannot be split. -/
def visit? (request : Request) : Option Visit :=
  request.addressPath?.map fun path =>
    ⟨path, request.parameters, CookieHeader.read request.cookieHeaders⟩

end Request

end LoginGate.Site
