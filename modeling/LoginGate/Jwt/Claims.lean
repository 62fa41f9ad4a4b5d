import LoginGate.Jwt.Document
import LoginGate.Numeral.Read
import LoginGate.Session.Identity
import LoginGate.Time.Timestamp

/-!
# Claims

## Main definitions

* `Claims.profile` : what claims tell of a user.
* `Claims.check` : whether claims hold now and come from an issuer.
-/

namespace LoginGate.Claims

/-! ### Profiles -/

/-- The strings that make up a value. -/
def strings? : Json → Option (List CodeString)
  | .arr items => items.mapM Json.codeString?
  | _ => none

/-- A claim that is a string; anything else counts as absent. -/
def stringClaim (claims : Json) (name : String) : Option CodeString :=
  (claims.get? name).bind Json.codeString?

/-- A claim that is a list of strings; anything else counts as empty. -/
def listClaim (claims : Json) (name : String) : List CodeString :=
  ((claims.get? name).bind strings?).getD []

/-- What claims tell of a user; what is absent or malformed is passed over. -/
def profile (claims : Json) : Profile CodeString :=
  { sub := stringClaim claims "sub"
    name := stringClaim claims "name"
    email := stringClaim claims "email"
    groups := listClaim claims "groups"
    roles := listClaim claims "roles" }

/-! ### Validity -/

/-- The claims that have to be there. -/
def requiredNames : List String := ["sub", "iat", "exp", "jti"]

/-- Whether a claim is absent or null. -/
def isAbsent (claims : Json) (name : String) : Bool :=
  match claims.get? name with
  | none | some .null => true
  | some _ => false

/-- The whole number that a value gives. -/
def wholeNumber? : Json → Option Int
  | .int i => some i
  | .bool b => some (if b then 1 else 0)
  | .float x => x.truncate?
  | .str s => Numeral.readInt? s
  | _ => none

/-- Fails for a reason if a condition holds. -/
def refuse {F : Type} (condition : Bool) (reason : F) : Except F Unit :=
  if condition then .error reason else .ok ()

/-- The whole number of a claim.  A value that gives none is refused, unless the platform has no
rule for it. -/
def seconds (platform : Platform) (claims : Json) (name : String) (kind : Jwt.Fault) :
    Except (Failure Jwt.Fault) Int :=
  match claims.get? name with
  | none => .error (.fault kind)
  | some value =>
    match wholeNumber? value with
    | some time => .ok time
    | none =>
      if platform.refusesTime value then .error (.fault kind) else .error (.breakdown .timeKind)

/-- Checks whether a time fits the moment. -/
def checkTime (platform : Platform) (claims : Json) (name : String) (kind missed : Jwt.Fault)
    (fits : Instant → Bool) : Except (Failure Jwt.Fault) Unit := do
  let time ← seconds platform claims name kind
  refuse (!fits (time * microsPerSecond)) (.fault missed)

/-- Checks that a claim, if it is there, is a text. -/
def checkText (claims : Json) (name : String) (fault : Jwt.Fault) : Except Jwt.Fault Unit :=
  refuse ((claims.get? name).any (·.codeString?.isNone)) fault

/-- Checks that some claims are there. -/
def checkPresent (claims : Json) : List String → Except Jwt.Fault Unit
  | [] => .ok ()
  | name :: names =>
    if isAbsent claims name then .error (.claimAbsent name) else checkPresent claims names

/-- Checks where claims come from. -/
def checkIssuer (claims : Json) (issuer : String) : Except Jwt.Fault Unit :=
  match claims.get? "iss" with
  | none => .error (.claimAbsent "iss")
  | some (.str s) => refuse (s != issuer) .issuer
  | some (.unpaired _) => .error .issuer
  | some _ => .error .issuerKind

/-- Checks the time before which claims do not hold, if they name one. -/
def checkStart (platform : Platform) (claims : Json) (now : Instant) :
    Except (Failure Jwt.Fault) Unit :=
  if (claims.get? "nbf").isSome then
    checkTime platform claims "nbf" .notBeforeKind .notYetValid (· ≤ now)
  else .ok ()

/-- Checks where claims come from, and that what they name is named by texts. -/
def checkNames (claims : Json) (issuer : String) : Except Jwt.Fault Unit := do
  checkIssuer claims issuer
  checkText claims "sub" .subjectKind
  checkText claims "jti" .tokenIdKind

/-- Checks that claims hold now and come from an issuer. -/
def check (platform : Platform) (claims : Json) (issuer : String) (now : Instant) :
    Except (Failure Jwt.Fault) Unit := do
  (checkPresent claims requiredNames).mapError .fault
  checkTime platform claims "iat" .issuedAtKind .issuedInFuture (· ≤ now)
  checkStart platform claims now
  checkTime platform claims "exp" .expiryKind .expired (now < ·)
  (checkNames claims issuer).mapError .fault

end LoginGate.Claims
