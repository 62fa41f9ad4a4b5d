import LoginGate.Gate.Decision
import LoginGate.Json.Printer
import LoginGate.Site.SetCookie
import LoginGate.Url.Form

/-!
# Answers of the site

## Main definitions

* `Site.Answer` : an answer of the site.
* `Site.Answer.denial`, `Site.Answer.redirect`, `Site.Answer.page` : the answers of the gate itself.
-/

namespace LoginGate.Site

/-- An answer of the site. -/
structure Answer where
  status : Int
  headers : List (String × String)
  cookies : List SetCookie := []
  body : String
  deriving DecidableEq, Repr

namespace Answer

/-- Whether answers of a status say how long their body is. -/
def hasLength (status : Int) : Bool := !(status < 200 || status = 204 || status = 304)

/-- The header with the length of a body. -/
def lengthHeader (status : Int) (body : String) : List (String × String) :=
  if hasLength status then [("content-length", toString (Utf8.encode body).length)] else []

/-- An answer with a body of some type. -/
def ofBody (status : Int) (contentType body : String) : Answer where
  status := status
  headers := lengthHeader status body ++ [("content-type", contentType)]
  body := body

/-- The answer to a request that is denied. -/
def denial (denial : Denial) : Answer :=
  let document : Json :=
    .obj [("error", .str denial.error), ("error_description", .str denial.description)]
  ofBody denial.status "application/json" (document.render Json.compact)

/-- The characters that stand for themselves in the address of a redirect. -/
def isLocationChar (c : Char) : Bool := Form.isKept c || ":/%#?=@[]!$&'()*+,;".toList.contains c

/-- The answer that leads to an address. -/
def redirect (location : String) : Answer where
  status := 302
  headers := lengthHeader 302 "" ++
    [("location", String.ofList (Percent.encode isLocationChar location.toList))]
  body := ""

/-- The answer with a page that leads to an address. -/
def page (location : String) : Answer :=
  ofBody 200 "text/html; charset=utf-8"
    ("<script>window.location.href = " ++ Json.quote true location ++ "</script>")

end Answer

end LoginGate.Site
