import LoginGate.Gate.Step
import LoginGate.Site.Answer
import LoginGate.Site.Request

/-!
# The site

An application behind the gate.  It is called for the requests that the gate lets through, and it is
told on whose behalf.

## Main definitions

* `Site.User` : on whose behalf the application is called.
* `Site.App` : an application.
* `Site.serve` : what comes of a request to the site.
-/

namespace LoginGate.Site

/-- On whose behalf the application is called. -/
structure User where
  userId : String
  profile : Identity
  groups : List String
  deriving DecidableEq, Repr

namespace User

/-- What the user is called: by name, if there is one, and else by id. -/
def displayName (user : User) : String :=
  match user.profile.name with
  | some name => if name.isEmpty then user.userId else name
  | none => user.userId

/-- What the user is entitled to. -/
def scopes (user : User) : List String := "authenticated" :: user.groups

end User

/-- An application: its answer to a request, on a user's behalf if there is one. -/
abbrev App := Request → Option User → Answer

/-- What comes of a request to the site. -/
structure Outcome where
  /-- The answer, unless there was a breakdown. -/
  result : Except Breakdown Answer
  memory : GateMemory
  /-- On whose behalf the application was called, if it was. -/
  call : Option (Option User) := none
  requests : List Http.Request := []
  fetches : Nat := 0

/-- On whose behalf the application is called after a decision, if it is. -/
def callFor : Decision → Option (Option User)
  | .pass => some none
  | .forward userId identity groups _ => some (some ⟨userId, identity, groups⟩)
  | .redirect .. | .deny .. => none

/-- The answer after a decision, without the decision's cookies. -/
def answerFor (app : App) (request : Request) : Decision → Answer
  | .pass => app request none
  | .forward userId identity groups _ => app request (some ⟨userId, identity, groups⟩)
  | .redirect location _ clientSide => if clientSide then .page location else .redirect location
  | .deny denial _ => .denial denial

/-- An answer that also tells some cookies. -/
def tell (answer : Answer) (cookies : List Cookie) : Except Breakdown Answer :=
  (cookies.mapM SetCookie.ofCookie).map fun told =>
    { answer with cookies := answer.cookies ++ told }

/-- The answer after a decision. -/
def answer (app : App) (request : Request) (decision : Decision) : Except Breakdown Answer :=
  tell (answerFor app request decision) decision.cookies

/-- What comes of a request to the site. -/
def serve (gate : Gate) (app : App) (memory : GateMemory) (moment : Moment) (request : Request) :
    Outcome :=
  match request.visit? with
  | none => { result := .error .address, memory }
  | some visit =>
    let outcome := gate.step memory moment visit
    { result := outcome.result.bind (answer app request)
      memory := outcome.memory
      call :=
        match outcome.result with
        | .ok decision => callFor decision
        | .error _ => none
      requests := outcome.requests
      fetches := outcome.fetches }

end LoginGate.Site
