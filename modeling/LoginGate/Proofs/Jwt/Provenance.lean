import LoginGate.Proofs.Jwt.Breakdown

/-!
# Where keys come from

A verifier looks for a key in the key set at hand, and fetches one where none is at hand or the key
is not in it. Whatever it fetches, and however often it is made to, a key set at hand was published
in an answer of the provider that has been used, in the same verification or an earlier one.

## Main definitions

* `Jwt.KeySet.Offers` : a key set offers a key for signatures under an id.
* `Jwt.KeyStore.From` : the key set at hand was published in one of some answers.
* `Jwt.Errand.Leads` : one errand leads to another by fetches alone.
* `Verifier.verifications` : the verifications of several tokens, one after the other.

## Main results

* `Jwt.Errand.Leads.from` : fetches keep to the answers that they use.
* `Verifier.offers_of_keyFor` : a key that is found is offered by the key set that is at hand then.
* `Verifier.from_verifications` : the key set at hand was published in an answer that was used.
-/

namespace LoginGate

namespace Jwt

/-! ### Key sets -/

/-- A key set offers a key under an id: it is published with that id and for signatures. -/
def KeySet.Offers (set : KeySet) (id : CodeString) (key : Key) : Prop :=
  ∃ published ∈ set.keys,
    published.isForSigning ∧ published.id.codeString? = some id ∧ published.key = key

theorem KeySet.hasId_iff {id : Option CodeString} {published : PublishedKey} :
    hasId id published ↔ ∃ name, id = some name ∧ published.id.codeString? = some name := by
  cases id with
  | none => simp [hasId]
  | some name => simp [hasId]

/-- A key that is found in a key set is offered by it. -/
theorem KeySet.offers_of_keyIn {set : KeySet} {id : Option CodeString} {key : Key}
    (h : Errand.keyIn id set = .ok (some key)) : ∃ name, id = some name ∧ set.Offers name key := by
  rw [Errand.keyIn, signing] at h
  split at h
  · rename_i keys hkeys
    split at hkeys
    · cases hkeys
    · cases hkeys
      obtain ⟨published, hpublished, hkey⟩ :=
        Option.map_eq_some_iff.mp (show find? id _ = some key from Except.ok.inj h)
      obtain ⟨name, hname, hid⟩ := hasId_iff.mp (List.find?_some hpublished)
      obtain ⟨hmem, hsigning⟩ := List.mem_filter.mp (List.mem_of_find?_eq_some hpublished)
      exact ⟨name, hname, published, hmem, hsigning, hid, hkey⟩
  · cases h

/-- The key set at hand, if there is one, was published in one of some answers. -/
def KeyStore.From (platform : Platform) (store : KeyStore) (answers : List KeyAnswer) : Prop :=
  ∀ time set, store.fetched = some (time, set) →
    ∃ answer ∈ answers, KeySet.ofAnswer platform answer = .ok set

theorem KeyStore.From.mono {platform : Platform} {store : KeyStore}
    {answers answers' : List KeyAnswer} (h : store.From platform answers)
    (hsub : ∀ answer ∈ answers, answer ∈ answers') : store.From platform answers' := by
  intro time set hset
  obtain ⟨answer, hmem, hanswer⟩ := h time set hset
  exact ⟨answer, hsub answer hmem, hanswer⟩

theorem KeyStore.from_empty (platform : Platform) (answers : List KeyAnswer) :
    From platform {} answers :=
  nofun

namespace Errand

variable {platform : Platform} {now : Instant} {first second third : Errand}

/-! ### Fetches -/

/-- One errand leads to another by fetches alone. -/
inductive Leads (platform : Platform) (now : Instant) (first : Errand) : Errand → Prop
  | refl : Leads platform now first first
  | fetch {second : Errand} (h : Leads platform now first second) :
    Leads platform now first (second.fetch platform now).2

theorem Leads.trans (hfirst : Leads platform now first second)
    (hsecond : Leads platform now second third) :
    Leads platform now first third := by
  induction hsecond with
  | refl => exact hfirst
  | fetch _ ih => exact ih.fetch

/-- Fetches use up answers in their order. -/
theorem Leads.answers_eq (h : Leads platform now first second) :
    first.fetches ≤ second.fetches ∧
      second.answers = first.answers.drop (second.fetches - first.fetches) := by
  induction h with
  | refl => simp
  | @fetch second _ ih =>
    obtain ⟨hle, hanswers⟩ := ih
    have hnext : second.fetches + 1 - first.fetches = second.fetches - first.fetches + 1 := by omega
    refine ⟨Nat.le_succ_of_le hle, ?_⟩
    simp only [Errand.fetch, hanswers, List.drop_drop, hnext]

/-- One more fetch uses one more answer, if there is one. -/
theorem Leads.used_fetch (h : Leads platform now first second) :
    first.used (second.fetch platform now).2 = first.used second ++ second.answers.take 1 := by
  obtain ⟨hle, hanswers⟩ := h.answers_eq
  have hnext : second.fetches + 1 - first.fetches = second.fetches - first.fetches + 1 := by omega
  simp only [used, Errand.fetch, hnext, List.take_add, hanswers]

/-- A fetch brings a key set only from an answer. -/
theorem nextAnswer_mem {errand : Errand} {set : KeySet}
    (h : KeySet.ofAnswer platform errand.nextAnswer = .ok set) :
    errand.nextAnswer ∈ errand.answers.take 1 := by
  obtain ⟨store, answers, fetches⟩ := errand
  cases answers with
  | nil => cases h
  | cons answer answers => exact List.mem_singleton_self _

/-- Fetches keep to the answers that they use. -/
theorem Leads.from (h : Leads platform now first second) {past : List KeyAnswer}
    (hpast : first.store.From platform past) :
    second.store.From platform (past ++ first.used second) := by
  induction h with
  | refl => exact hpast.mono fun answer hmem => List.mem_append_left _ hmem
  | @fetch second hleads ih =>
    rw [hleads.used_fetch, ← List.append_assoc]
    intro time set hset
    simp only [Errand.fetch] at hset
    cases hresult : KeySet.ofAnswer platform second.nextAnswer with
    | ok found =>
      rw [hresult] at hset
      cases hset
      exact ⟨_, List.mem_append_right _ (nextAnswer_mem hresult), hresult⟩
    | error failure =>
      rw [hresult] at hset
      exact ih.mono (fun answer hmem => List.mem_append_left _ hmem) time set hset

/-! ### The search for a key -/

/-- The key set at hand offers a key under an id. -/
def Offers (errand : Errand) (id : Option CodeString) (key : Key) : Prop :=
  ∃ time set name, errand.store.fetched = some (time, set) ∧ id = some name ∧ set.Offers name key

theorem leads_fetchedKey (platform : Platform) (errand : Errand) (now : Instant)
    (id : Option CodeString) :
    Leads platform now errand (errand.fetchedKey platform now id).2 := by
  simp only [fetchedKey]
  split <;> exact Leads.refl.fetch

theorem leads_keySet (platform : Platform) (errand : Errand) (now : Instant) :
    Leads platform now errand (errand.keySet platform now).2 := by
  rw [keySet]
  split
  · exact .refl
  · exact Leads.refl.fetch

theorem leads_key (platform : Platform) (errand : Errand) (now : Instant) (id : Option CodeString) :
    Leads platform now errand (errand.key platform now id).2 := by
  have hset := leads_keySet platform errand now
  simp only [key]
  split
  · exact hset
  · split
    · exact hset
    · exact hset.trans (leads_fetchedKey platform _ now id)
  · exact hset

/-- A key set that is used is at hand then. -/
theorem fetched_of_keySet {errand : Errand} {set : KeySet}
    (h : (errand.keySet platform now).1 = .ok set) :
    ∃ time, (errand.keySet platform now).2.store.fetched = some (time, set) := by
  rw [keySet] at h ⊢
  cases hcurrent : errand.store.current? now with
  | some found =>
    rw [hcurrent] at h
    cases h
    rw [KeyStore.current?] at hcurrent
    split at hcurrent
    · rename_i time found hfetched
      split at hcurrent <;> cases hcurrent
      exact ⟨time, hfetched⟩
    · cases hcurrent
  | none =>
    rw [hcurrent] at h
    simp only [Errand.fetch] at h ⊢
    rw [h]
    exact ⟨now, rfl⟩

theorem offers_of_fetchedKey {errand : Errand} {id : Option CodeString} {found : Key}
    (h : (errand.fetchedKey platform now id).1 = .ok found) :
    (errand.fetchedKey platform now id).2.Offers id found := by
  simp only [fetchedKey] at h ⊢
  cases hkey : (errand.fetch platform now).1.bind (keyIn id) with
  | error failure =>
    rw [hkey] at h
    cases h
  | ok answer =>
    cases answer with
    | none =>
      rw [hkey] at h
      cases h
    | some key =>
      rw [hkey] at h
      cases h
      obtain ⟨set, hset, hin⟩ := Result.bind_eq_ok_iff.mp hkey
      obtain ⟨name, hname, hoffers⟩ := KeySet.offers_of_keyIn hin
      simp only [Errand.fetch] at hset
      exact ⟨now, set, name, by simp only [Errand.fetch, hset], hname, hoffers⟩

/-- A key that is found is offered by the key set that is at hand then. -/
theorem offers_of_key {errand : Errand} {id : Option CodeString} {found : Key}
    (h : (errand.key platform now id).1 = .ok found) :
    (errand.key platform now id).2.Offers id found := by
  simp only [key] at h ⊢
  cases hkey : (errand.keySet platform now).1.bind (keyIn id) with
  | error failure =>
    rw [hkey] at h
    cases h
  | ok answer =>
    cases answer with
    | none =>
      simp only [hkey] at h ⊢
      split
      · rename_i hfresh
        rw [if_pos hfresh] at h
        cases h
      · rename_i hfresh
        rw [if_neg hfresh] at h
        exact offers_of_fetchedKey h
    | some key =>
      rw [hkey] at h
      cases h
      obtain ⟨set, hset, hin⟩ := Result.bind_eq_ok_iff.mp hkey
      obtain ⟨name, hname, hoffers⟩ := KeySet.offers_of_keyIn hin
      obtain ⟨time, hfetched⟩ := fetched_of_keySet hset
      exact ⟨time, set, name, hfetched, hname, hoffers⟩

end Errand

end Jwt

namespace Verifier

open Jwt

variable {platform : Platform} {verifier : Verifier} {now : Instant} {token : String}
  {errand : Errand}

theorem leads_findKey (platform : Platform) (now : Instant) (id : Option CodeString)
    (attempts : Nat) (errand : Errand) :
    Errand.Leads platform now errand (findKey platform now id attempts errand).2 := by
  -- Each attempt goes on from where the one before has led.
  induction attempts generalizing errand with
  | zero => exact .refl
  | succ attempts ih =>
    have hkey := Errand.leads_key platform errand now id
    rw [findKey]
    generalize errand.key platform now id = found at hkey ⊢
    obtain ⟨result, after⟩ := found
    cases result with
    | ok key => exact hkey
    | error failure =>
      cases failure with
      | unreachable why =>
        by_cases hlast : attempts = 0
        · simpa only [hlast, if_true] using hkey
        · simpa only [hlast, if_false] using hkey.trans (ih after)
      | fault fault => exact hkey
      | breakdown cause => exact hkey

theorem leads_keyFor (verifier : Verifier) (now : Instant) (token : String) (errand : Errand) :
    Errand.Leads verifier.platform now errand (verifier.keyFor now token errand).2 := by
  rw [keyFor]
  split
  · exact .refl
  · split
    · exact .refl
    · exact leads_findKey verifier.platform now _ _ errand

/-- A verification leads on by fetches alone. -/
theorem leads_verify (verifier : Verifier) (now : Instant) (token : String) (errand : Errand) :
    Errand.Leads verifier.platform now errand (verifier.verify now token errand).2 := by
  simp only [verify, verifiedClaims]
  split
  · exact .refl
  · split
    · exact .refl
    · exact verifier.leads_keyFor now token errand

theorem offers_of_findKey {id : Option CodeString} {attempts : Nat} {found : Key}
    (h : (findKey platform now id attempts errand).1 = .ok found) :
    (findKey platform now id attempts errand).2.Offers id found := by
  induction attempts generalizing errand with
  | zero => cases h
  | succ attempts ih =>
    have hkey : (errand.key platform now id).1 = .ok found →
        (errand.key platform now id).2.Offers id found := Errand.offers_of_key
    rw [findKey] at h ⊢
    generalize errand.key platform now id = answer at hkey h ⊢
    obtain ⟨result, after⟩ := answer
    cases result with
    | ok key =>
      cases h
      exact hkey rfl
    | error failure =>
      cases failure with
      | unreachable why =>
        by_cases hlast : attempts = 0
        · simp only [hlast, if_true] at h
          cases h
        · simp only [hlast, if_false] at h ⊢
          exact ih h
      | fault fault => cases h
      | breakdown cause => cases h

/-- A key that is found for a token is offered under the id in its header, by the key set that is at
hand then. -/
theorem offers_of_keyFor {found : Key} (h : (verifier.keyFor now token errand).1 = .ok found) :
    ∃ header claims, Jwt.read verifier.platform token = .ok (header, claims) ∧
      (verifier.keyFor now token errand).2.Offers
        ((header.get? "kid").bind Json.codeString?) found := by
  rw [keyFor] at h ⊢
  split at h
  · cases h
  · rename_i hattempts
    split at h
    · cases h
    · rename_i header claims hread
      refine ⟨header, claims, hread, ?_⟩
      rw [if_neg hattempts]
      exact offers_of_findKey h

end Verifier

/-! ### Verifications -/

/-- A token that is presented, and what the provider would answer to requests for its keys. -/
structure Presentation where
  now : Instant
  token : String
  answers : List Jwt.KeyAnswer

/-- A verification of a token, with what is at hand for it. -/
structure Verification where
  now : Instant
  token : String
  errand : Jwt.Errand

namespace Verifier

open Jwt

variable {verifier : Verifier}

/-- What comes of a verification. -/
def outcome (verifier : Verifier) (v : Verification) :
    Except TokenFailure (Profile CodeString) × Errand :=
  verifier.verify v.now v.token v.errand

/-- The verifications of the tokens that are presented, each with the keys that the one before has
left. -/
def verifications (verifier : Verifier) (store : KeyStore) :
    List Presentation → List Verification
  | [] => []
  | presented :: rest =>
    let v : Verification := ⟨presented.now, presented.token, ⟨store, presented.answers, 0⟩⟩
    v :: verifier.verifications (verifier.outcome v).2.store rest

/-- The answers that are used in a verification. -/
def used (verifier : Verifier) (v : Verification) : List KeyAnswer :=
  v.errand.used (verifier.outcome v).2

/-- One verification keeps to the answers that have been used. -/
theorem from_outcome {v : Verification} {past : List KeyAnswer}
    (h : v.errand.store.From verifier.platform past) :
    (verifier.outcome v).2.store.From verifier.platform (past ++ verifier.used v) :=
  (verifier.leads_verify v.now v.token v.errand).from h

/-- The key set at hand before a verification was published in an answer that was used in an earlier
one. -/
theorem from_verifications {store : KeyStore} {answers : List KeyAnswer}
    (hstore : store.From verifier.platform answers) {presented : List Presentation}
    {past later : List Verification} {v : Verification}
    (h : verifier.verifications store presented = past ++ v :: later) :
    v.errand.store.From verifier.platform (answers ++ past.flatMap verifier.used) := by
  induction presented generalizing store answers past with
  | nil => simp [verifications] at h
  | cons first presented ih =>
    rw [verifications] at h
    cases past with
    | nil =>
      obtain ⟨rfl, -⟩ := List.cons.inj h
      exact hstore.mono fun answer hmem => List.mem_append_left _ hmem
    | cons other past =>
      obtain ⟨rfl, hrest⟩ := List.cons.inj h
      rw [List.flatMap_cons, ← List.append_assoc]
      exact ih (from_outcome hstore) hrest

end Verifier

end LoginGate
