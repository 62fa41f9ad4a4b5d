import LoginGate.Text.NameMap

/-!
# Cookies

## Main definitions

* `Cookie` : what a browser is told to keep.
* `Cookie.isDeletion` : whether it is told to forget.
* `CookieJar` : what a browser keeps.
-/

namespace LoginGate

/-- Which requests from other sites carry a cookie. -/
inductive SameSite where
  /-- Those that lead the user here. -/
  | lax
  /-- None. -/
  | strict
  deriving DecidableEq, Repr

/-- The word for it in a cookie's attributes. -/
def SameSite.name : SameSite → String
  | .lax => "lax"
  | .strict => "strict"

/-- What a browser is told to keep. -/
structure Cookie where
  name : String
  value : String
  /-- For how many seconds; zero tells it to forget. -/
  maxAge : Int
  path : String := "/"
  domain : Option String
  secure : Bool
  httpOnly : Bool := true
  sameSite : SameSite
  deriving DecidableEq, Repr

/-- Whether the browser is told to forget. -/
def Cookie.isDeletion (cookie : Cookie) : Bool := cookie.maxAge == 0

/-- What a browser keeps: cookie names with values. -/
abbrev CookieJar := NameMap

namespace CookieJar

/-- Does what a cookie tells. -/
def apply (jar : CookieJar) (cookie : Cookie) : CookieJar :=
  if cookie.isDeletion then NameMap.erase jar cookie.name
  else NameMap.insert jar cookie.name cookie.value

/-- Does what several cookies tell, one after the other. -/
def applyAll (jar : CookieJar) (cookies : List Cookie) : CookieJar := cookies.foldl apply jar

end CookieJar

end LoginGate
