import LoginGate.Cookie.Basic
import LoginGate.Denial
import LoginGate.Session.Identity

/-!
# Visits and decisions

## Main definitions

* `Visit` : what the gate looks at in a request.
* `Decision` : how a request goes on.
-/

namespace LoginGate

/-- What the gate looks at in a request. -/
structure Visit where
  path : String := "/"
  query : NameMap := []
  cookies : CookieJar := []
  deriving DecidableEq, Repr

namespace Visit

/-- The value of a query name, if there is one and it is not empty. -/
def parameter? (visit : Visit) (name : String) : Option String :=
  (visit.query.get? name).filter (!·.isEmpty)

/-- The value of a cookie, if there is one and it is not empty. -/
def cookie? (visit : Visit) (name : String) : Option String :=
  (NameMap.get? visit.cookies name).filter (!·.isEmpty)

end Visit

/-- How a request goes on. -/
inductive Decision where
  /-- To the application, on nobody's behalf: the path is open to everybody. -/
  | pass
  /-- To the application, on a user's behalf. -/
  | forward (userId : String) (identity : Identity) (groups : List String) (cookies : List Cookie)
  /-- Elsewhere.  On the client's side the step is taken by a page, so that the next request comes
  from this site and carries all of its cookies. -/
  | redirect (location : String) (cookies : List Cookie) (clientSide : Bool)
  /-- Nowhere. -/
  | deny (denial : Denial) (cookies : List Cookie)
  deriving DecidableEq, Repr

/-- What the browser is told to keep and to forget. -/
def Decision.cookies : Decision → List Cookie
  | .pass => []
  | .forward _ _ _ cookies | .redirect _ cookies _ | .deny _ cookies => cookies

end LoginGate
