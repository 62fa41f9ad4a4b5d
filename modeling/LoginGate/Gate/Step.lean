import LoginGate.Gate.Course
import LoginGate.Gate.Grant
import LoginGate.Gate.Login

/-!
# A visit from beginning to end

## Main definitions

* `Gate.follow` : takes a course.
* `Gate.step` : what comes of a visit.
* `Gate.run` : what comes of several visits, one after the other.
-/

namespace LoginGate

namespace Gate

/-- Forwards a session, and keeps the groups of its user.  A session of nobody leads to the
provider. -/
def forward (gate : Gate) (now : Instant) (memory : GateMemory) (session : Session)
    (cookies : List Cookie) : Outcome :=
  match session.userId? with
  | none => gate.leadToProvider memory [gate.plan.clearSession]
  | some userId =>
    let groups := session.identity.groupsAndRoles
    { result :=
        if memory.groups.canRecord then .ok (.forward userId session.identity groups cookies)
        else .error .emptyCache
      memory := { memory with groups := memory.groups.record now userId groups } }

/-- The cookie that keeps a session, under the next initialisation vector. -/
def keepSession (gate : Gate) (draws : Draws) (session : Session) : Cookie :=
  gate.plan.session (gate.entropy.iv draws.ivs) session

/-- The draws after that for a session's cookie. -/
def afterSession (draws : Draws) : Draws := { draws with ivs := draws.ivs + 1 }

/-- Renews a session and forwards the new one.  The old one is forwarded once if that fails. -/
def renew (gate : Gate) (moment : Moment) (memory : GateMemory) (session : Session) : Outcome :=
  let obtained := gate.obtain moment memory.keys (.refresh (session.refreshToken.getD ""))
    session.refreshToken
  let memory := { memory with keys := obtained.keys }
  let outcome : Outcome :=
    match obtained.result with
    | .error (.breakdown breakdown) => { result := .error breakdown, memory }
    | .error (.fault _) => gate.forward moment.now memory session [gate.plan.clearSession]
    | .ok renewed =>
      gate.forward moment.now { memory with draws := afterSession memory.draws } renewed
        [gate.keepSession memory.draws renewed]
  { outcome with requests := obtained.requests, fetches := obtained.fetches }

/-- Exchanges a code for a session.  The user is led into the site again, with the session. -/
def exchange (gate : Gate) (moment : Moment) (memory : GateMemory) (code : String)
    (verifier : Option String) (cookies : List Cookie) : Outcome :=
  let obtained := gate.obtain moment memory.keys (.code code verifier) none
  let memory := { memory with keys := obtained.keys }
  let outcome : Outcome :=
    match obtained.result with
    | .error (.breakdown breakdown) => { result := .error breakdown, memory }
    | .error (.fault fault) => { result := .ok (.deny fault.denial cookies), memory }
    | .ok session =>
      { result := .ok (.redirect gate.settings.postLoginPath
          (cookies ++ [gate.keepSession memory.draws session]) true)
        memory := { memory with draws := afterSession memory.draws } }
  { outcome with requests := obtained.requests, fetches := obtained.fetches }

/-- Takes a course. -/
def follow (gate : Gate) (moment : Moment) (memory : GateMemory) : Course → Outcome
  | .pass => { result := .ok .pass, memory }
  | .forward session cookies => gate.forward moment.now memory session cookies
  | .renew session => gate.renew moment memory session
  | .exchange code verifier cookies => gate.exchange moment memory code verifier cookies
  | .login cookies => gate.leadToProvider memory cookies
  | .deny fault cookies => { result := .ok (.deny fault.denial cookies), memory }
  | .stuck breakdown => { result := .error breakdown, memory }

/-- What comes of a visit. -/
def step (gate : Gate) (memory : GateMemory) (moment : Moment) (visit : Visit) : Outcome :=
  gate.follow moment memory (gate.course moment.now visit)

/-- What comes of several visits, one after the other. -/
def run (gate : Gate) (memory : GateMemory) : List (Moment × Visit) → List Outcome
  | [] => []
  | (moment, visit) :: visits =>
    let outcome := gate.step memory moment visit
    outcome :: gate.run outcome.memory visits

end Gate

end LoginGate
