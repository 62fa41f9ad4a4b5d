import LoginGate.Json.Encoding
import LoginGate.Platform

/-!
# Signed tokens

A token is three texts in base64, with points between them: a header, a payload and a signature of
the two before.

## Main definitions

* `Jwt.Document` : a token taken apart.
* `Jwt.load` : takes a token apart and checks its header.
* `Jwt.Document.claims` : the claims in the payload.
-/

namespace LoginGate.Jwt

/-- A token taken apart. -/
structure Document where
  /-- The header, an object. -/
  header : Json
  payload : Bytes
  signature : Bytes
  /-- What has been signed. -/
  signed : Bytes

/-! ### Headers -/

/-- Extensions that are understood. -/
def knownExtensions : List String := ["b64"]

/-- Checks critical extensions one by one. -/
def checkCritical (header : Json) : List Json → Except Fault Unit
  | [] => .ok ()
  | .str name :: rest =>
    if !knownExtensions.contains name then .error (.criticalUnknown name)
    else if (header.get? name).isNone then .error (.criticalAbsent name)
    else checkCritical header rest
  | .unpaired _ :: _ => .error (.criticalUnknown "")
  | _ :: _ => .error .criticalKind

/-- Checks key id and critical extensions. -/
def checkHeader (header : Json) : Except Fault Unit := do
  match header.get? "kid" with
  | none | some (.str _) | some (.unpaired _) => pure ()
  | some _ => throw .keyIdKind
  match header.get? "crit" with
  | none => pure ()
  | some (.arr (name :: names)) => checkCritical header (name :: names)
  | some _ => throw .criticalList

/-- Whether the payload is said to be elsewhere. -/
def isDetached (header : Json) : Bool :=
  match header.get? "b64" with
  | some (.bool false) => true
  | _ => false

/-- The value of a part of a token, or a fault.  What nests too deep is refused with the same fault,
unless the platform has no rule for it. -/
def readPart (platform : Platform) (fault : Fault) (bytes : Bytes) : Except (Failure Fault) Json :=
  match Json.ofBytes platform.nesting bytes with
  | .ok json => .ok json
  | .error .malformed => .error (.fault fault)
  | .error .tooDeep =>
    if platform.refusesDeepTokens then .error (.fault fault) else .error (.breakdown .nesting)

/-- The object that a value is, or a fault. -/
def asObject (fault : Fault) : Json → Except (Failure Fault) Json
  | .obj members => .ok (.obj members)
  | _ => .error (.fault fault)

/-- The object in the bytes of a header. -/
def headerOf (platform : Platform) (bytes : Bytes) : Except (Failure Fault) Json := do
  asObject .headerKind (← readPart platform .headerText bytes)

/-- What is found, or a reason why nothing is. -/
def found {F α : Type} (reason : F) : Option α → Except F α
  | some a => .ok a
  | none => .error reason

/-- Takes a token apart and checks its header. -/
def load (platform : Platform) (token : String) : Except (Failure Fault) Document := do
  let (front, last) ← found (.fault .segments) (splitLastPoint? token.toList)
  let (first, middle) ← found (.fault .segments) (splitPoint? front)
  let header ← headerOf platform (← found (.fault .headerEncoding) (segment? first))
  if isDetached header && !middle.isEmpty then throw (.fault .attachedPayload)
  let payload ← found (.fault .payloadEncoding) (segment? middle)
  let signature ← found (.fault .signatureEncoding) (segment? last)
  (checkHeader header).mapError .fault
  return ⟨header, payload, signature, Utf8.encode (String.ofList front)⟩

namespace Document

/-- A token whose payload is elsewhere cannot be read. -/
def checkAttached (document : Document) : Except Fault Unit :=
  if isDetached document.header then
    match document.header.get? "crit" with
    | some _ => .error .detachedPayload
    | none => .error .detachedNotCritical
  else .ok ()

/-- The claims in the payload, an object. -/
def claims (platform : Platform) (document : Document) : Except (Failure Fault) Json := do
  asObject .payloadKind (← readPart platform .payloadText document.payload)

end Document

/-- The header and the claims of a token whose signature does not matter. -/
def read (platform : Platform) (token : String) : Except (Failure Fault) (Json × Json) := do
  let document ← load platform token
  document.checkAttached.mapError .fault
  return (document.header, ← document.claims platform)

end LoginGate.Jwt
