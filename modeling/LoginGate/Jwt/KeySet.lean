import LoginGate.Json.Encoding
import LoginGate.Platform

/-!
# Published key sets

## Main definitions

* `Jwt.KeyAnswer` : an answer to the request for a key set.
* `Jwt.KeySet` : the usable keys of a provider.
* `Jwt.KeySet.ofAnswer` : the key set of an answer.
* `Jwt.KeySet.find?` : the key of an id.
-/

namespace LoginGate.Jwt

/-- An answer to the request for a key set. -/
inductive KeyAnswer where
  /-- A document. -/
  | document (body : Bytes)
  /-- A status that is no success. -/
  | refused (status : Int) (reason : String)
  /-- None, for a reason in words. -/
  | none (why : String)
  /-- None, for a reason that the client has no words for: it could not ask, or the answer broke
  off. -/
  | broken
  deriving DecidableEq, Repr

/-- A key with what its publisher says about it. -/
structure PublishedKey where
  /-- The id, null if there is none. -/
  id : Json
  /-- What it is for, null if that is not said. -/
  use : Json
  key : Key

/-- Whether a key is for signatures and has an id. -/
def PublishedKey.isForSigning (published : PublishedKey) : Bool :=
  !published.id.isVoid &&
    match published.use with
    | .null | .str "sig" => true
    | _ => false

/-- The usable keys of a provider, in their order. -/
structure KeySet where
  keys : List PublishedKey

namespace KeySet

/-- What becomes of a published key. -/
def readKey (platform : Platform) (json : Json) : KeyReading :=
  match Key.ofJson? json with
  | some key => .usable key
  | none => platform.unusualKey json

/-- A usable key with what its publisher says about it. -/
def publishedKey (json : Json) (key : Key) : PublishedKey :=
  ⟨(json.get? "kid").getD .null, (json.get? "use").getD .null, key⟩

/-- The usable ones among published keys, in their order. -/
def usableKeys (platform : Platform) : List Json → Except (Failure Fault) (List PublishedKey)
  | [] => .ok []
  | json :: rest =>
    match readKey platform json with
    | .usable key => (usableKeys platform rest).map (publishedKey json key :: ·)
    | .passedOver => usableKeys platform rest
    | .stuck => .error (.breakdown .publishedKey)

/-- A key set from its document. -/
def ofJson (platform : Platform) (json : Json) : Except (LoginGate.Failure Fault) KeySet :=
  match json with
  | .obj members =>
    match Json.lookupLast? "keys" members with
    | none => .error (.fault .keySetEmpty)
    | some (.arr (item :: items)) => do
      match ← usableKeys platform (item :: items) with
      | [] => .error (.fault .keySetUnusable)
      | keys => .ok ⟨keys⟩
    | some value =>
      if value.isVoid then .error (.fault .keySetEmpty) else .error (.fault .keySetList)
  | _ => .error (.fault .keySetKind)

/-- Why there is no key set. -/
inductive Failure where
  /-- No document came, for a reason in words. -/
  | unreachable (why : String)
  | fault (fault : Fault)
  | breakdown (breakdown : Breakdown)
  deriving DecidableEq, Repr

/-- A failure to read a key set as a reason why there is none. -/
def readFailure : LoginGate.Failure Fault → Failure
  | .fault cause => .fault cause
  | .breakdown cause => .breakdown cause

/-- The key set of an answer. -/
def ofAnswer (platform : Platform) : KeyAnswer → Except Failure KeySet
  | .none why =>
    .error (.unreachable
      ("Fail to fetch data from the url, err: \"<urlopen error " ++ why ++ ">\""))
  | .refused status reason =>
    .error (.unreachable
      ("Fail to fetch data from the url, err: \"HTTP Error " ++ toString status ++ ": " ++ reason ++
        "\""))
  | .broken => .error (.breakdown .keySetExchange)
  | .document body =>
    match Json.ofBytes platform.nesting body with
    | .error .malformed => .error (.breakdown .keySetText)
    | .error .tooDeep => .error (.breakdown .nesting)
    | .ok json => (ofJson platform json).mapError readFailure

/-- The keys for signatures. -/
def signing (set : KeySet) : Except Fault (List PublishedKey) :=
  match set.keys.filter (·.isForSigning) with
  | [] => .error .keySetSigning
  | keys => .ok keys

/-- Whether a key has a given id. -/
def hasId (id : Option CodeString) (published : PublishedKey) : Bool :=
  id.isSome && published.id.codeString? = id

/-- The first key of an id. -/
def find? (id : Option CodeString) (keys : List PublishedKey) : Option Key :=
  (keys.find? (hasId id)).map (·.key)

end KeySet

end LoginGate.Jwt
