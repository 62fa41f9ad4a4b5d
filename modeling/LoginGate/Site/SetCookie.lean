import LoginGate.Breakdown
import LoginGate.Cookie.Basic
import LoginGate.Site.CookieHeader

/-!
# Cookies in answers

## Main definitions

* `SetCookie` : a cookie as an answer tells a browser.
* `SetCookie.ofCookie` : how a cookie is told.
* `CookieJar.store` : what a browser does with it.
-/

namespace LoginGate

/-- A cookie as an answer tells a browser. -/
structure SetCookie where
  name : String
  /-- The value as it is written. -/
  value : String
  /-- The attributes in their order; one without value just stands there. -/
  attributes : List (String × Option String)
  deriving DecidableEq, Repr

namespace SetCookie

/-- An attribute as text. -/
def attributeText : String × Option String → String
  | (name, none) => name
  | (name, some value) => name ++ "=" ++ value

/-- The attributes as text. -/
def attributesText (set : SetCookie) : String := "; ".intercalate (set.attributes.map attributeText)

/-- The header's text. -/
def line (set : SetCookie) : String := set.name ++ "=" ++ set.value ++ "; " ++ set.attributesText

/-- The names that attributes have. -/
def reservedNames : List String := [
  "expires", "path", "comment", "domain", "max-age", "secure", "httponly", "version", "samesite"]

/-- Whether a cookie may have a name. -/
def isLegalName (name : String) : Bool :=
  !name.isEmpty && name.toList.all CookieHeader.isPlain &&
    !reservedNames.contains (String.ofList (name.toList.map Char.toLower))

/-- The attributes of a cookie, in the order of their names. -/
def attributesOf (cookie : Cookie) : List (String × Option String) :=
  (cookie.domain.toList.map fun domain => ("Domain", some domain)) ++
    (if cookie.httpOnly then [("HttpOnly", none)] else []) ++
    [("Max-Age", some (toString cookie.maxAge)), ("Path", some cookie.path),
      ("SameSite", some cookie.sameSite.name)] ++
    (if cookie.secure then [("Secure", none)] else [])

/-- How a cookie is told.  A header has only characters of one byte. -/
def ofCookie (cookie : Cookie) : Except Breakdown SetCookie :=
  let set : SetCookie := ⟨cookie.name, CookieHeader.quote cookie.value, attributesOf cookie⟩
  if !isLegalName cookie.name then .error .cookieName
  else if set.line.toList.any (256 ≤ ·.toNat) then .error .headerCharacter
  else .ok set

/-- Whether the browser is told to forget. -/
def isDeletion (set : SetCookie) : Bool := set.attributes.contains ("Max-Age", some "0")

end SetCookie

/-- What a browser does when it is told a cookie. -/
def CookieJar.store (jar : CookieJar) (set : SetCookie) : CookieJar :=
  if set.isDeletion then NameMap.erase jar set.name else NameMap.insert jar set.name set.value

end LoginGate
