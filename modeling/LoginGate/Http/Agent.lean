import LoginGate.Numeral.Shortest
import LoginGate.Text.Charset
import LoginGate.Url.Target

/-!
# What sends requests

Which addresses a request can be sent to, and how, is up to what sends it, and so is how long it can
wait for an answer. The text that it makes of the body of an answer is its own, too.

## Main definitions

* `Seconds` : a number of seconds, whole or not.
* `Http.Agent` : what sends requests and reads answers.
* `Http.Agent.standard` : a usual one.
-/

namespace LoginGate

/-- A number of seconds. -/
inductive Seconds where
  /-- Given as a whole number. -/
  | whole (count : Int)
  /-- Given with a fraction. -/
  | binary (count : Binary64)
  deriving DecidableEq, Repr

/-- A number of seconds as text. -/
def Seconds.text : Seconds → String
  | .whole count => toString count
  | .binary count => count.text

namespace Http

/-- What sends requests and reads answers. -/
structure Agent where
  /-- The way in which an address is written in a request, if a request that waits so long can be
  sent there. -/
  address? : (url : String) → (timeout : Seconds) → Option String
  /-- The text of a body with its content type, if it has one.  The body is not empty. -/
  text? : (contentType : Option String) → Bytes → Option String

/-- A usual agent, which waits as long as it is told to. -/
def Agent.standard : Agent where
  address? url _ := Target.normal? url
  text? contentType body := (Charset.ofContentType contentType).decode? body

end Http

end LoginGate
