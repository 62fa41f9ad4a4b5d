import LoginGate.Jwt.KeySet
import LoginGate.Time.Timestamp

/-!
# Keys at hand

A key set is kept for a while after it has been fetched.  It is fetched again when it is too old,
and when a key is not in it; but for a missing key not more often than twice a minute.

## Main definitions

* `Jwt.KeyStore` : the key set at hand.
* `Jwt.Errand` : a store together with the answers that fetches will get.
* `Jwt.Errand.key` : the key of an id.
-/

namespace LoginGate.Jwt

/-- The key set at hand, with the time of its fetch. -/
structure KeyStore where
  fetched : Option (Instant × KeySet) := none

namespace KeyStore

/-- For how long a key set is good. -/
def lifespan : Int := 300 * microsPerSecond

/-- For how long after a fetch a missing key is no reason for another one. -/
def patience : Int := 30 * microsPerSecond

/-- The key set at hand, if it is still good. -/
def current? (store : KeyStore) (now : Instant) : Option KeySet :=
  match store.fetched with
  | some (time, set) => if now ≤ time + lifespan then some set else none
  | none => none

/-- Whether a fetch is too recent for another one. -/
def isFresh (store : KeyStore) (now : Instant) : Bool :=
  store.fetched.any fun (time, _) => now - time < patience

end KeyStore

/-- A store with the answers that the next fetches get, and the number of fetches so far. -/
structure Errand where
  store : KeyStore
  answers : List KeyAnswer
  fetches : Nat := 0

namespace Errand

/-- The answer to the next fetch. -/
def nextAnswer (errand : Errand) : KeyAnswer := errand.answers.headD (.none "no answer")

/-- Fetches the key set.  What is no key set leaves the one at hand. -/
def fetch (platform : Platform) (errand : Errand) (now : Instant) :
    Except KeySet.Failure KeySet × Errand :=
  let result := KeySet.ofAnswer platform errand.nextAnswer
  (result,
    { store :=
        match result with
        | .ok set => ⟨some (now, set)⟩
        | .error _ => errand.store
      answers := errand.answers.drop 1
      fetches := errand.fetches + 1 })

/-- The key set at hand, or a fetched one. -/
def keySet (platform : Platform) (errand : Errand) (now : Instant) :
    Except KeySet.Failure KeySet × Errand :=
  match errand.store.current? now with
  | some set => (.ok set, errand)
  | none => errand.fetch platform now

/-- The key of an id in a key set; none if it is not there. -/
def keyIn (id : Option CodeString) (set : KeySet) : Except KeySet.Failure (Option Key) :=
  match set.signing with
  | .ok keys => .ok (KeySet.find? id keys)
  | .error fault => .error (.fault fault)

/-- How a message names an id. -/
def idText (id : Option CodeString) : String := (id.map CodeString.shown).getD "None"

/-- The key of an id in a set fetched for its sake. -/
def fetchedKey (platform : Platform) (errand : Errand) (now : Instant) (id : Option CodeString) :
    Except KeySet.Failure Key × Errand :=
  let (result, errand) := errand.fetch platform now
  match result.bind (keyIn id) with
  | .ok (some key) => (.ok key, errand)
  | .ok none => (.error (.fault (.keyUnknown (idText id))), errand)
  | .error failure => (.error failure, errand)

/-- The key of an id. -/
def key (platform : Platform) (errand : Errand) (now : Instant) (id : Option CodeString) :
    Except KeySet.Failure Key × Errand :=
  let (result, errand) := errand.keySet platform now
  match result.bind (keyIn id) with
  | .ok (some key) => (.ok key, errand)
  | .ok none =>
    if errand.store.isFresh now then (.error (.fault (.keyUnknown (idText id))), errand)
    else errand.fetchedKey platform now id
  | .error failure => (.error failure, errand)

end Errand

end LoginGate.Jwt
