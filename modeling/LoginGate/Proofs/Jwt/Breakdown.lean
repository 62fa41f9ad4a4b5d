import LoginGate.Jwt.Verifier
import LoginGate.Proofs.Jwt.Claims
import LoginGate.Proofs.Jwt.Segments

/-!
# Tokens that cannot be verified

A token is refused with a fault, but some things have no rule: a header or a payload that nests too
deep, unless the platform refuses it, an answer with keys that breaks off, or that cannot be read as
JSON or because of one of its keys, an algorithm that is an array or an object, a key that is of no
use for the algorithm, and a time that is no number, unless the platform refuses it. They are all
that breaks a verification down, however often the provider is asked for its keys.

## Main definitions

* `Jwt.TooDeep`, `Jwt.TokenTooDeep` : a part of a token that nests deeper than the platform has a
  rule for, and a token with such a part.
* `Jwt.KeyAnswer.Breaks` : what leaves an answer with keys without a verdict.
* `Jwt.Errand.Search` : a search for a key breaks down exactly by such an answer.
* `Jwt.Key.Misfits` : how a key breaks down with an algorithm.
* `Verifier.Breaks` : what breaks a verification down.

## Main results

* `Jwt.Errand.search_key`, `Verifier.search_findKey` : the search for a key, and the repeated one.
* `Verifier.verify_eq_breakdown_iff` : a verification breaks down exactly by what breaks it.
-/

namespace LoginGate

namespace Jwt

variable {platform : Platform} {b : Breakdown}

/-! ### Parts of a token -/

/-- A part of a token nests too deep, and the platform does not refuse it. -/
def TooDeep (platform : Platform) (bytes : Bytes) : Prop :=
  platform.refusesDeepTokens = false ∧ Json.ofBytes platform.nesting bytes = .error .tooDeep

theorem readPart_bind_asObject_eq_breakdown_iff {text kind : Fault} {bytes : Bytes} :
    (readPart platform text bytes).bind (asObject kind) = .error (.breakdown b) ↔
      b = .nesting ∧ TooDeep platform bytes := by
  rw [readPart, TooDeep]
  cases Json.ofBytes platform.nesting bytes with
  | ok value => cases value <;> simp [Except.bind, asObject]
  | error failure =>
    cases failure with
    | malformed => simp [Except.bind]
    | tooDeep => cases platform.refusesDeepTokens <;> simp [Except.bind, eq_comm]

theorem headerOf_eq_breakdown_iff {bytes : Bytes} :
    headerOf platform bytes = .error (.breakdown b) ↔ b = .nesting ∧ TooDeep platform bytes :=
  readPart_bind_asObject_eq_breakdown_iff

theorem claims_eq_breakdown_iff {document : Document} :
    document.claims platform = .error (.breakdown b) ↔
      b = .nesting ∧ TooDeep platform document.payload :=
  readPart_bind_asObject_eq_breakdown_iff

/-- The header of a token nests too deep. -/
def HeaderTooDeep (platform : Platform) (token : String) : Prop :=
  ∃ first middle last bytes, token.toList = first ++ '.' :: (middle ++ '.' :: last) ∧ '.' ∉ last ∧
    segment? first = some bytes ∧ TooDeep platform bytes

theorem found_ne_breakdown {α : Type} {fault : Fault} {option : Option α} :
    found (.fault fault) option ≠ (.error (.breakdown b) : Except (Failure Fault) α) := by
  cases option <;> simp [found]

/-- To take a token apart breaks down exactly by its header. -/
theorem load_eq_breakdown_iff {token : String} :
    load platform token = .error (.breakdown b) ↔ b = .nesting ∧ HeaderTooDeep platform token := by
  constructor
  · intro h
    rw [load] at h
    obtain h | ⟨⟨front, last⟩, hlast, h⟩ := Result.bind_eq_error_iff.mp h
    · exact absurd h found_ne_breakdown
    obtain h | ⟨⟨first, middle⟩, hfirst, h⟩ := Result.bind_eq_error_iff.mp h
    · exact absurd h found_ne_breakdown
    obtain h | ⟨bytes, hsegment, h⟩ := Result.bind_eq_error_iff.mp h
    · exact absurd h found_ne_breakdown
    obtain h | ⟨json, -, h⟩ := Result.bind_eq_error_iff.mp h
    · obtain ⟨rfl, hdeep⟩ := headerOf_eq_breakdown_iff.mp h
      obtain ⟨rfl, htoken, -, hpoint⟩ :=
        splits_iff.mp ⟨found_eq_ok_iff.mp hlast, found_eq_ok_iff.mp hfirst⟩
      exact ⟨rfl, first, middle, last, bytes, htoken, hpoint, found_eq_ok_iff.mp hsegment, hdeep⟩
    -- With the header read, all that follows is refused with faults.
    cases hdetached : isDetached json && !middle.isEmpty with
    | true =>
      simp only [hdetached, if_true] at h
      cases h
    | false =>
      simp only [hdetached, Bool.false_eq_true, if_false] at h
      obtain h | ⟨payload, -, h⟩ := Result.bind_eq_error_iff.mp h
      · exact absurd h found_ne_breakdown
      obtain h | ⟨signature, -, h⟩ := Result.bind_eq_error_iff.mp h
      · exact absurd h found_ne_breakdown
      obtain h | ⟨⟨⟩, -, h⟩ := Result.bind_eq_error_iff.mp h
      · exact absurd h Failure.mapError_fault_ne_breakdown
      · cases h
  · rintro ⟨rfl, first, middle, last, bytes, htoken, hlast, hsegment, hdeep⟩
    obtain ⟨hfront, hparts⟩ :=
      splits_iff.mpr ⟨rfl, htoken, point_notMem_of_segment? hsegment, hlast⟩
    have hheader : headerOf platform bytes = .error (.breakdown .nesting) :=
      headerOf_eq_breakdown_iff.mpr ⟨rfl, hdeep⟩
    simp only [load, hfront, hparts, hsegment, found, bind, Except.bind, hheader]

/-- To read a token that can be taken apart breaks down exactly by a payload that is not said to be
elsewhere. -/
theorem read_eq_breakdown_iff {token : String} {document : Document}
    (hload : load platform token = .ok document) :
    read platform token = .error (.breakdown b) ↔
      b = .nesting ∧ document.checkAttached = .ok () ∧ TooDeep platform document.payload := by
  rw [read, hload]
  cases hattached : document.checkAttached with
  | error fault => simp [bind, Except.bind, hattached]
  | ok _ =>
    simp only [bind, Except.bind, hattached, Result.mapError_ok, true_and]
    rw [← claims_eq_breakdown_iff]
    cases document.claims platform <;> simp [pure, Except.pure]

/-- A token nests too deep: its header does, or its payload, which is not said to be elsewhere. -/
def TokenTooDeep (platform : Platform) (token : String) : Prop :=
  HeaderTooDeep platform token ∨ ∃ document, load platform token = .ok document ∧
    document.checkAttached = .ok () ∧ TooDeep platform document.payload

/-- What leaves an answer with keys without a verdict. -/
inductive KeyAnswer.Breaks (platform : Platform) : KeyAnswer → Breakdown → Prop
  /-- The client has no words for why there is none. -/
  | exchange : Breaks platform .broken .keySetExchange
  /-- The document is no JSON. -/
  | text {body : Bytes} (hjson : Json.ofBytes platform.nesting body = .error .malformed) :
      Breaks platform (.document body) .keySetText
  /-- The document nests too deep. -/
  | nesting {body : Bytes} (hjson : Json.ofBytes platform.nesting body = .error .tooDeep) :
      Breaks platform (.document body) .nesting
  /-- Nothing can be made of one of the keys. -/
  | key {body : Bytes} {members : List (String × Json)} {items : List Json} {item : Json}
      (hjson : Json.ofBytes platform.nesting body = .ok (.obj members))
      (hkeys : Json.lookupLast? "keys" members = some (.arr items)) (hitem : item ∈ items)
      (hstuck : KeySet.readKey platform item = .stuck) :
      Breaks platform (.document body) .publishedKey

theorem KeySet.usableKeys_eq_error_iff {items : List Json} {failure : LoginGate.Failure Fault} :
    usableKeys platform items = .error failure ↔
      failure = .breakdown .publishedKey ∧ ∃ item ∈ items, readKey platform item = .stuck := by
  induction items with
  | nil => simp [usableKeys]
  | cons item items ih =>
    rw [usableKeys]
    cases hread : readKey platform item with
    | usable key => simp [Result.map_eq_error_iff, ih, hread]
    | passedOver => simp [ih, hread]
    | stuck => simp [hread, eq_comm]

theorem KeySet.ofJson_eq_breakdown_iff {json : Json} :
    ofJson platform json = .error (.breakdown b) ↔
      b = .publishedKey ∧ ∃ members items item, json = .obj members ∧
        Json.lookupLast? "keys" members = some (.arr items) ∧ item ∈ items ∧
        readKey platform item = .stuck := by
  cases json with
  | obj members =>
    simp only [ofJson, Json.obj.injEq, exists_and_left, exists_eq_left']
    cases hkeys : Json.lookupLast? "keys" members with
    | none => simp
    | some value =>
      cases value with
      | arr items =>
        cases items with
        | nil => simp [Json.isVoid]
        | cons item items =>
          cases husable : usableKeys platform (item :: items) with
          | ok keys =>
            have hnone : ¬ ∃ other ∈ item :: items, readKey platform other = .stuck := fun hstuck =>
              nomatch husable.symm.trans (usableKeys_eq_error_iff.mpr ⟨rfl, hstuck⟩)
            simp only [husable, bind, Except.bind, Option.some.injEq, Json.arr.injEq,
              exists_eq_left', hnone, and_false, iff_false]
            split <;> simp
          | error failure =>
            obtain ⟨rfl, hstuck⟩ := usableKeys_eq_error_iff.mp husable
            simpa [husable, bind, Except.bind, eq_comm] using fun _ => hstuck
      | _ =>
        simp only [Option.some.injEq, reduceCtorEq, false_and, exists_false, and_false, iff_false]
        split <;> simp
  | _ => simp [ofJson]

theorem KeySet.ofAnswer_eq_breakdown_iff {answer : KeyAnswer} :
    ofAnswer platform answer = .error (.breakdown b) ↔ answer.Breaks platform b := by
  constructor
  · intro h
    cases answer with
    | none why => cases h
    | refused status reason => cases h
    | broken =>
      cases h
      exact .exchange
    | document body =>
      rw [ofAnswer] at h
      cases hjson : Json.ofBytes platform.nesting body with
      | error failure =>
        rw [hjson] at h
        cases failure <;> cases h
        · exact .text hjson
        · exact .nesting hjson
      | ok json =>
        rw [hjson] at h
        obtain ⟨failure, hfailure, hb⟩ := Result.mapError_eq_error_iff.mp h
        cases failure with
        | fault fault => cases hb
        | breakdown cause =>
          cases hb
          obtain ⟨rfl, members, items, item, rfl, hkeys, hitem, hstuck⟩ :=
            ofJson_eq_breakdown_iff.mp hfailure
          exact .key hjson hkeys hitem hstuck
  · rintro (_ | hjson | hjson | ⟨hjson, hkeys, hitem, hstuck⟩)
    · rfl
    · rw [ofAnswer, hjson]
    · rw [ofAnswer, hjson]
    · rw [ofAnswer, hjson]
      simp only [ofJson_eq_breakdown_iff.mpr ⟨rfl, _, _, _, rfl, hkeys, hitem, hstuck⟩]
      rfl

namespace Errand

/-- The answers that were used from one errand to another. -/
def used (before after : Errand) : List KeyAnswer :=
  before.answers.take (after.fetches - before.fetches)

/-- A search leads from one errand to another. It uses up answers in their order, and it breaks down
exactly as one of them does. -/
structure Search (platform : Platform) (before after : Errand) (Broken : Breakdown → Prop) :
    Prop where
  fetches_le : before.fetches ≤ after.fetches
  answers_eq : after.answers = before.answers.drop (after.fetches - before.fetches)
  broken_iff : ∀ b, Broken b ↔ ∃ answer ∈ before.used after, answer.Breaks platform b

namespace Search

variable {first second third : Errand} {Broken : Breakdown → Prop}

/-- A search that asks nobody does not break down. -/
theorem refl (errand : Errand) (h : ∀ b, ¬ Broken b) : Search platform errand errand Broken where
  fetches_le := Nat.le_refl _
  answers_eq := by simp
  broken_iff b := by simp [used, h b]

/-- After a search that has not broken down, there may be another one. -/
theorem trans (hfirst : Search platform first second fun _ => False)
    (hsecond : Search platform second third Broken) : Search platform first third Broken := by
  have hle := hfirst.fetches_le
  have hle' := hsecond.fetches_le
  have hsum : third.fetches - first.fetches =
      (second.fetches - first.fetches) + (third.fetches - second.fetches) := by omega
  have hused : first.used third = first.used second ++ second.used third := by
    rw [used, used, used, hfirst.answers_eq, hsum, List.take_add]
  refine ⟨Nat.le_trans hle hle', ?_, fun b => ?_⟩
  · rw [hsecond.answers_eq, hfirst.answers_eq, List.drop_drop, hsum]
  · have hnone := (hfirst.broken_iff b).mpr
    rw [hsecond.broken_iff, hused]
    constructor
    · rintro ⟨answer, hmem, hbreaks⟩
      exact ⟨answer, List.mem_append_right _ hmem, hbreaks⟩
    · rintro ⟨answer, hmem, hbreaks⟩
      rcases List.mem_append.mp hmem with hmem | hmem
      · exact (hnone ⟨answer, hmem, hbreaks⟩).elim
      · exact ⟨answer, hmem, hbreaks⟩

theorem congr (h : Search platform first second Broken) {Broken' : Breakdown → Prop}
    (hiff : ∀ b, Broken' b ↔ Broken b) : Search platform first second Broken' :=
  ⟨h.fetches_le, h.answers_eq, fun b => (hiff b).trans (h.broken_iff b)⟩

end Search

/-! ### The search for a key -/

/-- A fetch uses the next answer. -/
theorem search_fetch (platform : Platform) (errand : Errand) (now : Instant) :
    Search platform errand (errand.fetch platform now).2
      fun b => KeySet.ofAnswer platform errand.nextAnswer = .error (.breakdown b) where
  fetches_le := by simp [fetch]
  answers_eq := by simp [fetch]
  broken_iff b := by
    obtain ⟨store, answers, fetches⟩ := errand
    rw [KeySet.ofAnswer_eq_breakdown_iff]
    cases answers with
    | nil => simpa [used, fetch, nextAnswer] using nofun
    | cons answer answers => simp [used, fetch, nextAnswer]

/-- To look for an id in a key set does not break down. -/
theorem bind_keyIn_eq_breakdown_iff (result : Except KeySet.Failure KeySet) (id : Option CodeString)
    {b : Breakdown} :
    result.bind (keyIn id) = .error (.breakdown b) ↔ result = .error (.breakdown b) := by
  cases result with
  | error failure => simp [Except.bind]
  | ok set =>
    rw [Except.bind, keyIn]
    cases set.signing <;> simp

theorem search_fetchedKey (errand : Errand) (now : Instant) (id : Option CodeString) :
    Search platform errand (errand.fetchedKey platform now id).2
      fun b => (errand.fetchedKey platform now id).1 = .error (.breakdown b) := by
  have hfetch := search_fetch platform errand now
  have hiff := fun b =>
    bind_keyIn_eq_breakdown_iff (KeySet.ofAnswer platform errand.nextAnswer) id (b := b)
  rw [fetchedKey]
  simp only [fetch] at hfetch ⊢
  cases hresult : (KeySet.ofAnswer platform errand.nextAnswer).bind (keyIn id) with
  | error failure => exact hfetch.congr fun b => by simp [← hiff b, hresult]
  | ok found => cases found <;> exact hfetch.congr fun b => by simp [← hiff b, hresult]

/-- A key set that has just been fetched is not fetched again. -/
theorem isFresh_fetch {errand : Errand} {now : Instant} {set : KeySet}
    (h : KeySet.ofAnswer platform errand.nextAnswer = .ok set) :
    (errand.fetch platform now).2.store.isFresh now := by
  simp [fetch, h, KeyStore.isFresh, KeyStore.patience, microsPerSecond]

theorem search_key (platform : Platform) (errand : Errand) (now : Instant)
    (id : Option CodeString) :
    Search platform errand (errand.key platform now id).2
      fun b => (errand.key platform now id).1 = .error (.breakdown b) := by
  rw [key, keySet]
  cases errand.store.current? now with
  | some set =>
    simp only
    cases hkey : (Except.ok set).bind (keyIn id) with
    | error failure =>
      refine .refl errand fun b hb => ?_
      cases hb
      cases (bind_keyIn_eq_breakdown_iff _ _).mp hkey
    | ok found =>
      cases found with
      | some key => exact .refl errand nofun
      | none =>
        simp only
        split
        · exact .refl errand nofun
        · exact errand.search_fetchedKey now id
  | none =>
    have hfetch := search_fetch platform errand now
    have hfst : (errand.fetch platform now).1 = KeySet.ofAnswer platform errand.nextAnswer := rfl
    simp only [hfst]
    cases hkey : (KeySet.ofAnswer platform errand.nextAnswer).bind (keyIn id) with
    | error failure =>
      exact hfetch.congr fun b => by simp [← bind_keyIn_eq_breakdown_iff _ id, hkey]
    | ok found =>
      have hnot : ∀ b, ¬ KeySet.ofAnswer platform errand.nextAnswer = .error (.breakdown b) := by
        intro b hb
        rw [hb] at hkey
        cases hkey
      cases found with
      | some key => exact hfetch.congr fun b => by simp [hnot b]
      | none =>
        cases hset : KeySet.ofAnswer platform errand.nextAnswer with
        | error failure =>
          rw [hset] at hkey
          cases hkey
        | ok set =>
          -- The set has just come, so the missing id is no reason for a second fetch.
          simp only [isFresh_fetch hset, if_true]
          exact hfetch.congr fun b => by simp [hset]

end Errand

/-! ### Algorithms and keys -/

/-- Whether a key is a secret. -/
def Key.isSecret : Key → Bool
  | .secret _ => true
  | _ => false

/-- Whether a key is one for a family of algorithms. -/
def Key.fits : Key → Family → Bool
  | .rsa _, .rsa | .point .., .curve | .ed25519 _, .edwards | .ed448 _, .edwards
  | .secret _, .secret => true
  | _, _ => false

/-- How a key breaks down with an algorithm of a family. -/
inductive Key.Misfits (platform : Platform) (algorithm : String) (family : Family) :
    Key → Breakdown → Prop
  /-- It is a key for another family. Edwards curves have a fault for that. -/
  | kind {key : Key} (hfamily : family ≠ .edwards) (hsecret : key.isSecret = false)
      (hfits : key.fits family = false) : Misfits platform algorithm family key .keyKind
  /-- It is a secret where the algorithm takes the text of a key. -/
  | text {secret : Bytes} {b : Breakdown} (hfamily : family ≠ .secret)
      (htext : platform.keyOfText algorithm family secret = .error (.breakdown b)) :
      Misfits platform algorithm family (.secret secret) b

theorem Key.prepare_eq_breakdown_iff {algorithm : String} {family : Family} {key : Key} :
    key.prepare platform algorithm family = .error (.breakdown b) ↔
      key.Misfits platform algorithm family b := by
  constructor
  · intro h
    cases key with
    | secret secret =>
      cases family with
      | secret =>
        rw [prepare] at h
        split at h <;> cases h
      | _ => exact .text nofun h
    | point curve x y =>
      cases family with
      | curve =>
        have hcurve : ∀ b, checkCurve algorithm curve ≠ .error (.breakdown b) := by
          intro b hb
          rw [checkCurve] at hb
          split at hb
          · split at hb <;> cases hb
          · cases hb
        exact absurd (Result.map_eq_error_iff.mp h) (hcurve b)
      | edwards => cases h
      | _ =>
        cases h
        exact .kind nofun rfl rfl
    | _ =>
      cases family <;> cases h <;> exact .kind nofun rfl rfl
  · rintro (⟨hfamily, hsecret, hfits⟩ | ⟨hfamily, htext⟩)
    · cases key <;> cases family <;> first | rfl | simp_all [isSecret, fits]
    · cases family <;> first | exact htext | exact absurd rfl hfamily

theorem checkSignature_eq_breakdown_iff {algorithm : String} {key : Key}
    (signed signature : Bytes) :
    checkSignature platform algorithm key signed signature = .error (.breakdown b) ↔
      ∃ family, families.lookup algorithm = some family ∧
        key.Misfits platform algorithm family b := by
  rw [checkSignature]
  by_cases hempty : algorithm.isEmpty
  · rw [String.isEmpty_iff] at hempty
    subst hempty
    have hlookup : families.lookup "" = none := by decide
    simp [hlookup]
  by_cases hnone : algorithm = "none"
  · subst hnone
    have hlookup : families.lookup "none" = none := by decide
    simp [hlookup, hempty]
  rw [if_neg hempty, if_neg hnone]
  cases families.lookup algorithm with
  | none => simp
  | some family =>
    simp only [Option.some.injEq, exists_eq_left', ← Key.prepare_eq_breakdown_iff]
    cases key.prepare platform algorithm family with
    | error failure => simp [bind, Except.bind]
    | ok prepared =>
      simp only [bind, Except.bind, reduceCtorEq, iff_false]
      split <;> simp

/-- Whether an algorithm is an array or an object. -/
def isComposite : Json → Bool
  | .arr _ | .obj _ => true
  | _ => false

end Jwt

namespace Verifier

variable {verifier : Verifier} {now : Instant} {token : String} {errand : Jwt.Errand}
  {b : Breakdown}

/-- A header breaks down by an algorithm that is an array or an object. -/
theorem checkHeader_eq_breakdown_iff {header : Json} :
    verifier.checkHeader header = .error (.breakdown b) ↔
      b = .algorithmKind ∧ isAcceptedType header ∧
        (header.get? "alg").any Jwt.isComposite := by
  rw [checkHeader]
  cases isAcceptedType header with
  | false => simp
  | true =>
    simp only [Bool.not_true, Bool.false_eq_true, if_false, true_and]
    cases header.get? "alg" with
    | none => simp
    | some value =>
      cases value with
      | arr items => simp [Jwt.isComposite, eq_comm]
      | obj members => simp [Jwt.isComposite, eq_comm]
      | str name =>
        simp only [Option.any_some, Jwt.isComposite]
        split <;> simp
      | _ => simp [Jwt.isComposite]

/-! ### The repeated search -/

theorem search_findKey (platform : Platform) (now : Instant) (id : Option CodeString)
    (attempts : Nat) (errand : Jwt.Errand) :
    errand.Search platform (findKey platform now id attempts errand).2
      fun b => (findKey platform now id attempts errand).1 = .error (.breakdown b) := by
  -- Each attempt goes on with the answers that the one before has left.
  induction attempts generalizing errand with
  | zero => exact .refl errand nofun
  | succ attempts ih =>
    have hkey := Jwt.Errand.search_key platform errand now id
    rw [findKey]
    generalize errand.key platform now id = found at hkey ⊢
    obtain ⟨result, after⟩ := found
    cases result with
    | ok key => exact hkey.congr fun b => by simp
    | error failure =>
      cases failure with
      | unreachable why =>
        by_cases hlast : attempts = 0
        · simp only [hlast, if_true]
          exact hkey.congr fun b => by simp
        · simp only [hlast, if_false]
          exact (hkey.congr fun b => by simp).trans (ih after)
      | fault fault => exact hkey.congr fun b => by simp [keyFailure]
      | breakdown cause => exact hkey.congr fun b => by simp [keyFailure]

/-- The search for the key of a token begins with a look at the token. -/
theorem keyFor_eq_breakdown_iff {document : Jwt.Document}
    (hload : Jwt.load verifier.platform token = .ok document) :
    (verifier.keyFor now token errand).1 = .error (.breakdown b) ↔
      (0 < verifier.maxAttempts ∧ b = .nesting ∧ document.checkAttached = .ok () ∧
          Jwt.TooDeep verifier.platform document.payload) ∨
        ∃ answer ∈ errand.used (verifier.keyFor now token errand).2,
          answer.Breaks verifier.platform b := by
  rw [← Jwt.read_eq_breakdown_iff hload, keyFor]
  by_cases hattempts : verifier.maxAttempts ≤ 0
  · have hnot : ¬ 0 < verifier.maxAttempts := by omega
    simp [hattempts, hnot, Jwt.Errand.used]
  · have hsome : 0 < verifier.maxAttempts := by omega
    simp only [hattempts, if_false, hsome, true_and]
    cases Jwt.read verifier.platform token with
    | error failure => simp [Jwt.Errand.used]
    | ok parts =>
      simp only [reduceCtorEq, false_or]
      exact (search_findKey ..).broken_iff b

/-- Whoever has found a key has read the claims. -/
theorem exists_claims_of_keyFor {document : Jwt.Document} {key : Jwt.Key}
    (hload : Jwt.load verifier.platform token = .ok document)
    (hkey : (verifier.keyFor now token errand).1 = .ok key) :
    ∃ claims, document.claims verifier.platform = .ok claims := by
  rw [keyFor] at hkey
  split at hkey
  · cases hkey
  · split at hkey
    · cases hkey
    · rename_i hread
      obtain ⟨_, hload', -, -, hclaims⟩ := Jwt.read_eq_ok_iff.mp hread
      cases hload.symm.trans hload'
      exact ⟨_, hclaims⟩

/-! ### Verification -/

/-- What is checked once the key has been found breaks down by a key that does not fit, or by a time
that is no number. -/
theorem checkedClaims_eq_breakdown_iff {algorithm : String} {key : Jwt.Key}
    {document : Jwt.Document} {claims : Json}
    (hclaims : document.claims verifier.platform = .ok claims) :
    (verifier.checkedClaims now algorithm key document).mapError (·.map .invalid) =
        (.error (.breakdown b) : Except TokenFailure Json) ↔
      (∃ family, Jwt.families.lookup algorithm = some family ∧
        key.Misfits verifier.platform algorithm family b) ∨
      (Jwt.checkSignature verifier.platform algorithm key document.signed document.signature =
        .ok () ∧ b = .timeKind ∧ Claims.StrayTime verifier.platform claims now) := by
  rw [← Jwt.checkSignature_eq_breakdown_iff document.signed document.signature,
    ← Claims.check_eq_breakdown_iff verifier.issuer, checkedClaims]
  cases Jwt.checkSignature verifier.platform algorithm key document.signed document.signature with
  | error failure => simp [bind, Except.bind]
  | ok _ =>
    simp only [hclaims, bind, Except.bind]
    cases Claims.check verifier.platform claims verifier.issuer now <;> simp [pure, Except.pure]

/-- What breaks a verification down. -/
inductive Breaks (verifier : Verifier) (now : Instant) (token : String) (errand : Jwt.Errand) :
    Breakdown → Prop
  /-- The header nests too deep. -/
  | header (hdeep : Jwt.HeaderTooDeep verifier.platform token) :
      Breaks verifier now token errand .nesting
  /-- The algorithm in the header is an array or an object. -/
  | algorithmKind {document : Jwt.Document}
      (hload : Jwt.load verifier.platform token = .ok document)
      (htype : isAcceptedType document.header)
      (hkind : (document.header.get? "alg").any Jwt.isComposite) :
      Breaks verifier now token errand .algorithmKind
  /-- The header is in order, and the payload nests too deep. -/
  | payload {document : Jwt.Document} {algorithm : String}
      (hload : Jwt.load verifier.platform token = .ok document)
      (hheader : verifier.checkHeader document.header = .ok algorithm)
      (hattempts : 0 < verifier.maxAttempts) (hattached : document.checkAttached = .ok ())
      (hdeep : Jwt.TooDeep verifier.platform document.payload) :
      Breaks verifier now token errand .nesting
  /-- One of the answers that were used has no verdict. -/
  | keys {answer : Jwt.KeyAnswer} {b : Breakdown}
      (hused : answer ∈ errand.used (verifier.verify now token errand).2)
      (hbreaks : answer.Breaks verifier.platform b) :
      Breaks verifier now token errand b
  /-- The key that was found is of no use for the algorithm. -/
  | misfit {document : Jwt.Document} {algorithm : String} {key : Jwt.Key} {family : Jwt.Family}
      {b : Breakdown} (hload : Jwt.load verifier.platform token = .ok document)
      (hheader : verifier.checkHeader document.header = .ok algorithm)
      (hkey : (verifier.keyFor now token errand).1 = .ok key)
      (hfamily : Jwt.families.lookup algorithm = some family)
      (hmisfit : key.Misfits verifier.platform algorithm family b) :
      Breaks verifier now token errand b
  /-- The signature is in order, and a time of the claims has no rule. -/
  | time {document : Jwt.Document} {algorithm : String} {key : Jwt.Key} {claims : Json}
      (hload : Jwt.load verifier.platform token = .ok document)
      (hheader : verifier.checkHeader document.header = .ok algorithm)
      (hkey : (verifier.keyFor now token errand).1 = .ok key)
      (hsignature : Jwt.checkSignature verifier.platform algorithm key document.signed
        document.signature = .ok ())
      (hclaims : document.claims verifier.platform = .ok claims)
      (htime : Claims.StrayTime verifier.platform claims now) :
      Breaks verifier now token errand .timeKind

/-- Once the header has been checked, a verification goes on with the search for a key. -/
theorem verify_of_checkHeader {document : Jwt.Document} {algorithm : String} (now : Instant)
    (errand : Jwt.Errand) (hload : Jwt.load verifier.platform token = .ok document)
    (hheader : verifier.checkHeader document.header = .ok algorithm) :
    verifier.verify now token errand =
      (((verifier.keyFor now token errand).1.bind fun key =>
        (verifier.checkedClaims now algorithm key document).mapError (·.map .invalid)).map
          Claims.profile, (verifier.keyFor now token errand).2) := by
  simp only [verify, verifiedClaims, hload, hheader]

theorem verify_eq_breakdown_iff_of_checkHeader {document : Jwt.Document} {algorithm : String}
    (hload : Jwt.load verifier.platform token = .ok document)
    (hheader : verifier.checkHeader document.header = .ok algorithm) :
    (verifier.verify now token errand).1 = .error (.breakdown b) ↔
      verifier.Breaks now token errand b := by
  have hverify := verify_of_checkHeader now errand hload hheader
  have hused : errand.used (verifier.verify now token errand).2 =
      errand.used (verifier.keyFor now token errand).2 := by rw [hverify]
  rw [hverify, Result.map_eq_error_iff, Result.bind_eq_error_iff, keyFor_eq_breakdown_iff hload]
  constructor
  · rintro ((⟨hattempts, rfl, hattached, hdeep⟩ | ⟨answer, hmem, hbreaks⟩) | ⟨key, hkey, hchecked⟩)
    · exact .payload hload hheader hattempts hattached hdeep
    · rw [← hused] at hmem
      exact .keys hmem hbreaks
    · obtain ⟨claims, hclaims⟩ := exists_claims_of_keyFor hload hkey
      obtain ⟨family, hfamily, hmisfit⟩ | ⟨hsignature, rfl, htime⟩ :=
        (checkedClaims_eq_breakdown_iff hclaims).mp hchecked
      · exact .misfit hload hheader hkey hfamily hmisfit
      · exact .time hload hheader hkey hsignature hclaims htime
  · intro h
    cases h with
    | header hdeep => cases hload.symm.trans (Jwt.load_eq_breakdown_iff.mpr ⟨rfl, hdeep⟩)
    | algorithmKind hload' htype hkind =>
      cases hload.symm.trans hload'
      cases hheader.symm.trans (checkHeader_eq_breakdown_iff.mpr ⟨rfl, htype, hkind⟩)
    | payload hload' hheader' hattempts hattached hdeep =>
      cases hload.symm.trans hload'
      exact .inl (.inl ⟨hattempts, rfl, hattached, hdeep⟩)
    | keys hmem hbreaks =>
      rw [hused] at hmem
      exact .inl (.inr ⟨_, hmem, hbreaks⟩)
    | misfit hload' hheader' hkey hfamily hmisfit =>
      cases hload.symm.trans hload'
      cases hheader.symm.trans hheader'
      obtain ⟨claims, hclaims⟩ := exists_claims_of_keyFor hload hkey
      exact .inr ⟨_, hkey,
        (checkedClaims_eq_breakdown_iff hclaims).mpr (.inl ⟨_, hfamily, hmisfit⟩)⟩
    | time hload' hheader' hkey hsignature hclaims htime =>
      cases hload.symm.trans hload'
      cases hheader.symm.trans hheader'
      exact .inr ⟨_, hkey,
        (checkedClaims_eq_breakdown_iff hclaims).mpr (.inr ⟨hsignature, rfl, htime⟩)⟩

/-- A verification breaks down exactly by what breaks it down. -/
theorem verify_eq_breakdown_iff :
    (verifier.verify now token errand).1 = .error (.breakdown b) ↔
      verifier.Breaks now token errand b := by
  cases hload : Jwt.load verifier.platform token with
  | error failure =>
    have hverify : verifier.verify now token errand =
        (.error (failure.map .unreadable), errand) := by
      rw [verify, verifiedClaims, hload]
      rfl
    rw [hverify]
    constructor
    · intro h
      obtain rfl := Failure.map_eq_breakdown_iff.mp (Except.error.inj h)
      obtain ⟨rfl, hdeep⟩ := Jwt.load_eq_breakdown_iff.mp hload
      exact .header hdeep
    · intro h
      cases h with
      | header hdeep =>
        cases hload.symm.trans (Jwt.load_eq_breakdown_iff.mpr ⟨rfl, hdeep⟩)
        rfl
      | keys hused => simp [hverify, Jwt.Errand.used] at hused
      | algorithmKind hload' | payload hload' | misfit hload' | time hload' =>
        cases hload.symm.trans hload'
  | ok document =>
    cases hheader : verifier.checkHeader document.header with
    | error failure =>
      -- No key has been looked for yet, so no answer has been used.
      have hverify : verifier.verify now token errand = (.error failure, errand) := by
        simp only [verify, verifiedClaims, hload, hheader]
        rfl
      rw [hverify]
      constructor
      · rintro ⟨⟩
        obtain ⟨rfl, htype, hkind⟩ := checkHeader_eq_breakdown_iff.mp hheader
        exact .algorithmKind hload htype hkind
      · intro h
        cases h with
        | header hdeep => cases hload.symm.trans (Jwt.load_eq_breakdown_iff.mpr ⟨rfl, hdeep⟩)
        | algorithmKind hload' htype hkind =>
          cases hload.symm.trans hload'
          cases hheader.symm.trans (checkHeader_eq_breakdown_iff.mpr ⟨rfl, htype, hkind⟩)
          rfl
        | keys hused => simp [hverify, Jwt.Errand.used] at hused
        | payload hload' hheader' | misfit hload' hheader' | time hload' hheader' =>
          cases hload.symm.trans hload'
          cases hheader.symm.trans hheader'
    | ok algorithm => exact verify_eq_breakdown_iff_of_checkHeader hload hheader

end Verifier

end LoginGate
