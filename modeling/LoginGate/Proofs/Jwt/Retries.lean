import LoginGate.Proofs.Jwt.Soundness

/-!
# Asking again for keys

Where no key set is at hand, each attempt to find a key takes one more answer of the provider. An
answer without a document is an *outage*: it leaves the keys at hand as they are, so the next
attempt starts like the first one did, and what is found in the end does not tell how many outages
there have been. Only so many attempts are made, and no attempt takes two answers: a key set that
has just come is not fetched again for the sake of a key that is missing in it.

## Main definitions

* `Jwt.KeyAnswer.isOutage` : an answer without a document.
* `Jwt.Errand.answer`, `Jwt.Errand.MeetsOutages` : the answers to the next fetches.
* `Verifier.Searches` : a verification looks for the key of an id.
* `Verifier.Retries` : how a verification asks again.

## Main results

* `Jwt.Errand.key_of_current_eq_none` : an attempt to find a key where none is at hand.
* `Verifier.findKey_add` : outages only cost attempts.
* `Verifier.verify_eq_or_searches` : a verification asks nobody, or it looks for one key.
* `Verifier.retries_verify` : a verification asks again as it should.
-/

namespace LoginGate

namespace Jwt

/-! ### Outages -/

/-- Whether an answer brings no document. -/
def KeyAnswer.isOutage : KeyAnswer → Bool
  | .document _ | .broken => false
  | .refused .. | .none _ => true

/-- There is no key set for want of a document exactly in an outage. -/
theorem KeySet.exists_ofAnswer_iff (platform : Platform) {answer : KeyAnswer} :
    (∃ why, ofAnswer platform answer = .error (.unreachable why)) ↔ answer.isOutage := by
  cases answer with
  | none why => simp [ofAnswer, KeyAnswer.isOutage]
  | refused status reason => simp [ofAnswer, KeyAnswer.isOutage]
  | broken => simp [ofAnswer, KeyAnswer.isOutage]
  | document body =>
    simp only [ofAnswer, KeyAnswer.isOutage, Bool.false_eq_true, iff_false]
    rintro ⟨why, hwhy⟩
    split at hwhy
    · cases hwhy
    · cases hwhy
    · obtain ⟨failure, -, hfailure⟩ := Result.mapError_eq_error_iff.mp hwhy
      cases failure <;> cases hfailure

namespace Errand

variable {platform : Platform} {errand : Errand} {now : Instant} {id : Option CodeString}

/-- The key of an id in an answer. -/
def keyFrom (platform : Platform) (answer : KeyAnswer) (id : Option CodeString) :
    Except KeySet.Failure Key :=
  match (KeySet.ofAnswer platform answer).bind (keyIn id) with
  | .ok (some key) => .ok key
  | .ok none => .error (.fault (.keyUnknown (idText id)))
  | .error failure => .error failure

/-- There is no key for want of a document exactly in an outage. -/
theorem exists_keyFrom_iff {answer : KeyAnswer} :
    (∃ why, keyFrom platform answer id = .error (.unreachable why)) ↔ answer.isOutage := by
  rw [← KeySet.exists_ofAnswer_iff platform, keyFrom]
  cases KeySet.ofAnswer platform answer with
  | error failure => simp [Except.bind]
  | ok set =>
    simp only [Except.bind, keyIn]
    cases set.signing with
    | error fault => simp
    | ok keys => cases hfind : KeySet.find? id keys <;> simp [hfind]

/-- The answer to a fetch, by its number among those to come. -/
def answer (errand : Errand) (i : Nat) : KeyAnswer := errand.answers.getD i (.none "no answer")

/-- Whether the next fetches meet nothing but outages. -/
def MeetsOutages (errand : Errand) (count : Nat) : Prop :=
  ∀ i < count, (errand.answer i).isOutage

/-- The errand after some outages. -/
def after (errand : Errand) (outages : Nat) : Errand :=
  { errand with
    answers := errand.answers.drop outages
    fetches := errand.fetches + outages }

/-- The errand with some answers that come before its own. -/
def behind (errand : Errand) (outages : List KeyAnswer) : Errand :=
  { errand with answers := outages ++ errand.answers }

/-- The errand with some fetches counted before it. -/
def recounted (errand : Errand) (fetches : Nat) : Errand :=
  { errand with fetches := errand.fetches + fetches }

theorem nextAnswer_eq (errand : Errand) : errand.nextAnswer = errand.answer 0 := by
  rw [nextAnswer, answer]
  cases errand.answers <;> rfl

theorem answer_after (errand : Errand) (outages i : Nat) :
    (errand.after outages).answer i = errand.answer (outages + i) := by
  simp [answer, after, List.getD_eq_getElem?_getD]

@[simp] theorem after_zero (errand : Errand) : errand.after 0 = errand := by
  simp [after]

theorem after_after (errand : Errand) (m n : Nat) :
    (errand.after m).after n = errand.after (m + n) := by
  simp [after, Nat.add_assoc]

theorem after_behind (errand : Errand) (outages : List KeyAnswer) :
    (errand.behind outages).after outages.length = errand.recounted outages.length := by
  simp [after, behind, recounted]

theorem meetsOutages_behind {outages : List KeyAnswer} (h : ∀ answer ∈ outages, answer.isOutage) :
    (errand.behind outages).MeetsOutages outages.length := by
  intro i hi
  have hanswer : (errand.behind outages).answer i = outages[i] := by
    simp [answer, behind, List.getElem?_append_left hi, hi]
  rw [hanswer]
  exact h _ (List.getElem_mem hi)

theorem fetch_recounted (errand : Errand) (fetches : Nat) (now : Instant) :
    ((errand.recounted fetches).fetch platform now).2 =
      (errand.fetch platform now).2.recounted fetches := by
  simp [fetch, recounted, nextAnswer, Nat.add_right_comm]

/-- An outage leaves the keys at hand as they are. -/
theorem fetch_snd_of_isOutage (h : (errand.answer 0).isOutage) :
    (errand.fetch platform now).2 = errand.after 1 := by
  obtain ⟨why, hwhy⟩ := (KeySet.exists_ofAnswer_iff platform).mpr h
  simp [fetch, nextAnswer_eq, hwhy, after]

/-- Where no key set is at hand, a key is looked for in the next answer and nowhere else. -/
theorem key_of_current_eq_none (h : errand.store.current? now = none) :
    errand.key platform now id =
      (keyFrom platform (errand.answer 0) id, (errand.fetch platform now).2) := by
  have hfst : (errand.fetch platform now).1 = KeySet.ofAnswer platform (errand.answer 0) := by
    rw [← nextAnswer_eq]
    rfl
  rw [key, keySet, h]
  simp only [hfst, keyFrom]
  cases hkey : (KeySet.ofAnswer platform (errand.answer 0)).bind (keyIn id) with
  | error failure => rfl
  | ok found =>
    cases found with
    | some key => rfl
    | none =>
      -- The set has just come, so the missing key is no reason for a second fetch.
      obtain ⟨set, hset, -⟩ := Result.bind_eq_ok_iff.mp hkey
      rw [← nextAnswer_eq] at hset
      simp only [isFresh_fetch hset, if_true]

/-- Whatever is at hand, an attempt to find a key makes one fetch at most. -/
theorem fetches_key_le (platform : Platform) (errand : Errand) (now : Instant)
    (id : Option CodeString) :
    (errand.key platform now id).2.fetches ≤ errand.fetches + 1 := by
  cases hcurrent : errand.store.current? now with
  | none =>
    rw [key_of_current_eq_none hcurrent]
    exact Nat.le_refl _
  | some set =>
    rw [key, keySet, hcurrent]
    simp only
    split
    · exact Nat.le_succ _
    · split
      · exact Nat.le_succ _
      · rw [fetchedKey]
        simp only
        split <;> exact Nat.le_refl _
    · exact Nat.le_succ _

end Errand

end Jwt

namespace Verifier

open Jwt

variable {platform : Platform} {verifier : Verifier} {now : Instant} {token : String}
  {errand : Errand} {id : Option CodeString}

/-! ### Attempts -/

section Attempts

variable (errand : Errand) (id : Option CodeString)

/-- What is found in an answer that brings a document ends the search. -/
theorem findKey_of_not_isOutage (attempts : Nat) (hnone : errand.store.current? now = none)
    (hanswer : (errand.answer 0).isOutage = false) :
    findKey platform now id (attempts + 1) errand =
      ((Errand.keyFrom platform (errand.answer 0) id).mapError keyFailure,
        (errand.fetch platform now).2) := by
  have hfound :
      ¬ ∃ why, Errand.keyFrom platform (errand.answer 0) id = .error (.unreachable why) := by
    rw [Errand.exists_keyFrom_iff, hanswer]
    exact Bool.false_ne_true
  rw [findKey, Errand.key_of_current_eq_none hnone]
  cases hkey : Errand.keyFrom platform (errand.answer 0) id with
  | ok key => rfl
  | error failure =>
    cases failure with
    | unreachable why => exact absurd ⟨why, hkey⟩ hfound
    | fault fault => rfl
    | breakdown cause => rfl

/-- After an outage the next attempt starts like the first one, if there is a next one. -/
theorem findKey_of_isOutage (attempts : Nat) (hnone : errand.store.current? now = none)
    (hanswer : (errand.answer 0).isOutage) :
    ∃ why, findKey platform now id (attempts + 1) errand =
      if attempts = 0 then (.error (.fault (.noKeys (some why))), errand.after 1)
      else findKey platform now id attempts (errand.after 1) := by
  obtain ⟨why, hkey⟩ := Errand.exists_keyFrom_iff.mpr hanswer
  refine ⟨why, ?_⟩
  rw [findKey, Errand.key_of_current_eq_none hnone, hkey, Errand.fetch_snd_of_isOutage hanswer]

/-- Outages only cost attempts. -/
theorem findKey_add (outages attempts : Nat) (hnone : errand.store.current? now = none)
    (hout : errand.MeetsOutages outages) :
    findKey platform now id (outages + (attempts + 1)) errand =
      findKey platform now id (attempts + 1) (errand.after outages) := by
  -- The induction is on the outages; the keys at hand stay the same in all of them.
  induction outages generalizing errand with
  | zero => simp
  | succ outages ih =>
    obtain ⟨why, hfirst⟩ :=
      findKey_of_isOutage errand id (outages + attempts + 1) hnone (hout 0 (by omega))
    have hrest : (errand.after 1).MeetsOutages outages := by
      intro i hi
      rw [Errand.answer_after]
      exact hout (1 + i) (by omega)
    calc findKey platform now id (outages + 1 + (attempts + 1)) errand
        = findKey platform now id (outages + attempts + 1 + 1) errand := by congr 1; omega
      _ = findKey platform now id (outages + (attempts + 1)) (errand.after 1) := by
        rw [hfirst, if_neg (Nat.succ_ne_zero _), Nat.add_assoc]
      _ = findKey platform now id (attempts + 1) ((errand.after 1).after outages) :=
        ih (errand.after 1) hnone hrest
      _ = findKey platform now id (attempts + 1) (errand.after (outages + 1)) := by
        rw [Errand.after_after, Nat.add_comm 1 outages]

/-- After outages alone, the keys count as unreachable. -/
theorem findKey_of_meetsOutages (attempts : Nat) (hnone : errand.store.current? now = none)
    (hout : errand.MeetsOutages (attempts + 1)) :
    ∃ why, findKey platform now id (attempts + 1) errand =
      (.error (.fault (.noKeys (some why))), errand.after (attempts + 1)) := by
  have hlast : ((errand.after attempts).answer 0).isOutage := by
    rw [Errand.answer_after]
    exact hout attempts (Nat.lt_succ_self _)
  obtain ⟨why, hfind⟩ := findKey_of_isOutage (errand.after attempts) id 0 hnone hlast
  refine ⟨why, ?_⟩
  rw [findKey_add errand id attempts 0 hnone fun i hi => hout i (Nat.lt_succ_of_lt hi), hfind,
    if_pos rfl, Errand.after_after]

end Attempts

/-- Each attempt makes one fetch at most, whatever is at hand. -/
theorem fetches_findKey_le (platform : Platform) (now : Instant) (id : Option CodeString)
    (attempts : Nat) (errand : Errand) :
    (findKey platform now id attempts errand).2.fetches ≤ errand.fetches + attempts := by
  induction attempts generalizing errand with
  | zero => exact Nat.le_refl _
  | succ attempts ih =>
    have hkey := Errand.fetches_key_le platform errand now id
    rw [findKey]
    generalize errand.key platform now id = found at hkey ⊢
    obtain ⟨result, after⟩ := found
    simp only at hkey
    cases result with
    | ok key => exact hkey.trans (by omega)
    | error failure =>
      cases failure with
      | unreachable why =>
        by_cases hlast : attempts = 0
        · simp only [hlast, if_true]
          omega
        · simp only [hlast, if_false]
          exact (ih after).trans (by omega)
      | fault fault => exact hkey.trans (by omega)
      | breakdown cause => exact hkey.trans (by omega)

/-! ### Verifications -/

/-- A verification looks for the key of an id, and what comes of it is concluded from what is found:
without a key, it fails for the same reason. -/
structure Searches (verifier : Verifier) (now : Instant) (token : String) (id : Option CodeString)
    (conclude : Except TokenFailure Key → Except TokenFailure (Profile CodeString)) : Prop where
  attempts : 0 < verifier.maxAttempts
  failure : ∀ failure, conclude (.error failure) = .error failure
  verify_eq : ∀ errand, verifier.verify now token errand =
    (conclude (findKey verifier.platform now id verifier.maxAttempts.toNat errand).1,
      (findKey verifier.platform now id verifier.maxAttempts.toNat errand).2)

/-- A verification asks nobody, or it looks for one key. Which of the two does not depend on what is
at hand or on how the provider answers. -/
theorem verify_eq_or_searches (verifier : Verifier) (now : Instant) (token : String) :
    (∃ result, ∀ errand, verifier.verify now token errand = (result, errand)) ∨
      ∃ id conclude, verifier.Searches now token id conclude := by
  cases hload : Jwt.load verifier.platform token with
  | error fault =>
    exact .inl ⟨_, fun errand => by simp only [verify, verifiedClaims, hload]; rfl⟩
  | ok document =>
    cases hheader : verifier.checkHeader document.header with
    | error failure =>
      exact .inl ⟨_, fun errand => by simp only [verify, verifiedClaims, hload, hheader]; rfl⟩
    | ok algorithm =>
      have hverify := fun errand => verify_of_checkHeader now errand hload hheader
      by_cases hattempts : verifier.maxAttempts ≤ 0
      · exact .inl ⟨_, fun errand => by simp only [hverify, keyFor, if_pos hattempts]; rfl⟩
      · cases hread : Jwt.read verifier.platform token with
        | error fault =>
          exact .inl ⟨_, fun errand => by
            simp only [hverify, keyFor, if_neg hattempts, hread]; rfl⟩
        | ok parts =>
          obtain ⟨header, claims⟩ := parts
          refine .inr ⟨(header.get? "kid").bind Json.codeString?,
            fun found => (found.bind fun key =>
              (verifier.checkedClaims now algorithm key document).mapError (·.map .invalid)).map
                Claims.profile, by omega, fun failure => rfl, fun errand => ?_⟩
          simp only [hverify, keyFor, if_neg hattempts, hread]

/-- How a verification asks again for keys. -/
structure Retries (verifier : Verifier) (now : Instant) (token : String) : Prop where
  /-- Where no key set is at hand and a verification is made without outages, it is made in the same
  way behind any outages that are fewer than the attempts. It only takes one more fetch for each. -/
  transparent : ∀ errand, errand.store.current? now = none →
    errand.fetches < (verifier.verify now token errand).2.fetches →
    (∀ i < (verifier.verify now token errand).2.fetches - errand.fetches,
      (errand.answer i).isOutage = false) →
    ∀ outages : List KeyAnswer, (∀ answer ∈ outages, answer.isOutage) →
      (outages.length : Int) < verifier.maxAttempts →
      (verifier.verify now token (errand.behind outages)).1 =
          (verifier.verify now token errand).1 ∧
        (verifier.verify now token (errand.behind outages)).2 =
          (verifier.verify now token errand).2.recounted outages.length
  /-- A verification that meets nothing but outages is given up after the last attempt. -/
  exhausted : ∀ errand, errand.store.current? now = none →
    errand.fetches < (verifier.verify now token errand).2.fetches →
    errand.MeetsOutages verifier.maxAttempts.toNat →
    ∃ why, verifier.verify now token errand =
      (.error (.fault (.noKeys (some why))), errand.after verifier.maxAttempts.toNat)
  /-- Where no attempt is allowed, a token whose header is accepted is refused without a fetch. -/
  without : verifier.maxAttempts ≤ 0 → ∀ document algorithm,
    Jwt.load verifier.platform token = .ok document →
    verifier.checkHeader document.header = .ok algorithm →
    ∀ errand, verifier.verify now token errand = (.error (.fault (.noKeys none)), errand)
  /-- Whatever is at hand, there is not more than one fetch for each attempt. -/
  bounded : ∀ errand, (verifier.verify now token errand).2.fetches ≤
    errand.fetches + (max verifier.maxAttempts 0).toNat

namespace Searches

variable {conclude : Except TokenFailure Key → Except TokenFailure (Profile CodeString)}

/-- There is a first attempt, and perhaps more. -/
theorem exists_attempts (h : verifier.Searches now token id conclude) :
    ∃ attempts, verifier.maxAttempts.toNat = attempts + 1 :=
  Nat.exists_eq_add_one.mpr (Int.pos_iff_toNat_pos.mp h.attempts)

/-- A verification that is made with the first answer. -/
theorem verify_of_not_isOutage (h : verifier.Searches now token id conclude) (errand : Errand)
    (hnone : errand.store.current? now = none) (hanswer : (errand.answer 0).isOutage = false) :
    verifier.verify now token errand =
      (conclude ((Errand.keyFrom verifier.platform (errand.answer 0) id).mapError keyFailure),
        (errand.fetch verifier.platform now).2) := by
  obtain ⟨attempts, hattempts⟩ := h.exists_attempts
  rw [h.verify_eq, hattempts, findKey_of_not_isOutage errand id attempts hnone hanswer]

/-- A verification that is made behind some outages is made like the one that starts after them. -/
theorem verify_after (h : verifier.Searches now token id conclude) (errand : Errand)
    (hnone : errand.store.current? now = none) {outages : Nat} (hout : errand.MeetsOutages outages)
    (hfew : outages < verifier.maxAttempts.toNat)
    (hanswer : ((errand.after outages).answer 0).isOutage = false) :
    verifier.verify now token errand = verifier.verify now token (errand.after outages) := by
  obtain ⟨attempts, hattempts⟩ := Nat.exists_eq_add_of_lt hfew
  rw [h.verify_of_not_isOutage (errand.after outages) hnone hanswer, h.verify_eq, hattempts,
    Nat.add_assoc, findKey_add errand id outages attempts hnone hout,
    findKey_of_not_isOutage (errand.after outages) id attempts hnone hanswer]

/-- Outages in front of the answers make no difference but in the number of fetches. -/
theorem verify_behind (h : verifier.Searches now token id conclude) (errand : Errand)
    (hnone : errand.store.current? now = none) (hanswer : (errand.answer 0).isOutage = false)
    {outages : List KeyAnswer} (hout : ∀ answer ∈ outages, answer.isOutage)
    (hfew : (outages.length : Int) < verifier.maxAttempts) :
    (verifier.verify now token (errand.behind outages)).1 =
        (verifier.verify now token errand).1 ∧
      (verifier.verify now token (errand.behind outages)).2 =
        (verifier.verify now token errand).2.recounted outages.length := by
  have hafter := errand.after_behind outages
  have hlater : (((errand.behind outages).after outages.length).answer 0).isOutage = false := by
    rw [hafter]
    exact hanswer
  rw [h.verify_after (errand.behind outages) hnone (Errand.meetsOutages_behind hout) (by omega)
    hlater, hafter, h.verify_of_not_isOutage errand hnone hanswer,
    h.verify_of_not_isOutage (errand.recounted outages.length) hnone hanswer,
    Errand.fetch_recounted]
  exact ⟨rfl, rfl⟩

end Searches

/-- A verification asks again for keys as it should, for every token and at every time. -/
theorem retries_verify (verifier : Verifier) (now : Instant) (token : String) :
    verifier.Retries now token where
  transparent errand hnone hfetch hmet outages hout hfew := by
    rcases verifier.verify_eq_or_searches now token with ⟨result, hverify⟩ | ⟨id, conclude, h⟩
    · rw [hverify] at hfetch
      exact absurd hfetch (Nat.lt_irrefl _)
    · exact h.verify_behind errand hnone (hmet 0 (Nat.sub_pos_of_lt hfetch)) hout hfew
  exhausted errand hnone hfetch hout := by
    rcases verifier.verify_eq_or_searches now token with ⟨result, hverify⟩ | ⟨id, conclude, h⟩
    · rw [hverify] at hfetch
      exact absurd hfetch (Nat.lt_irrefl _)
    · obtain ⟨attempts, hattempts⟩ := h.exists_attempts
      rw [hattempts] at hout ⊢
      obtain ⟨why, hfind⟩ := findKey_of_meetsOutages errand id attempts hnone hout
      refine ⟨why, ?_⟩
      rw [h.verify_eq, hattempts, hfind, h.failure]
  without hnever document algorithm hload hheader errand := by
    rw [verify_of_checkHeader now errand hload hheader, keyFor, if_pos hnever]
    rfl
  bounded errand := by
    rcases verifier.verify_eq_or_searches now token with ⟨result, hverify⟩ | ⟨id, conclude, h⟩
    · rw [hverify]
      exact Nat.le_add_right _ _
    · have hfind := fetches_findKey_le verifier.platform now id verifier.maxAttempts.toNat errand
      have hattempts := h.attempts
      rw [h.verify_eq]
      exact hfind.trans (by omega)

/-! ### Two outages in front of a key set -/

theorem fetches_verify_sample :
    (sampleVerifier.verify sampleNow (sampleToken samplePayload) sampleErrand).2.fetches = 1 := by
  have hload : Jwt.load sampleVerifier.platform (sampleToken samplePayload) = _ :=
    load_sampleToken samplePayload
  have hread : Jwt.read .standard (sampleToken samplePayload) =
      .ok (.obj sampleHeader, .obj sampleClaims) :=
    read_eq_ok_iff.mpr
      ⟨_, hload, rfl, rfl, claims_eq_ok_iff.mpr ⟨sampleClaims, rfl, ofBytes_samplePayload⟩⟩
  have hheader : sampleVerifier.checkHeader (.obj sampleHeader) = .ok "HS256" := rfl
  have hattempts : ¬ sampleVerifier.maxAttempts ≤ 0 := by decide
  have hcount : sampleVerifier.maxAttempts.toNat = 2 + 1 := rfl
  have hid : ((Json.obj sampleHeader).get? "kid").bind Json.codeString? = some (.text "k") := rfl
  have hfind : findKey .standard sampleNow (some (.text "k")) (2 + 1) sampleErrand = _ :=
    findKey_of_not_isOutage sampleErrand (some (.text "k")) 2 rfl rfl
  have hplatform : sampleVerifier.platform = .standard := rfl
  rw [verify_of_checkHeader sampleNow sampleErrand hload hheader, keyFor, if_neg hattempts,
    hplatform, hread]
  simp only [hid, hcount]
  rw [hfind]
  rfl

/-- Two answers without a key set. -/
def sampleOutages : List KeyAnswer := [.none "timed out", .refused 503 "Service Unavailable"]

/-- With three attempts two outages in front of the key set make no difference: the token is
accepted as it is without them, and the keys are asked for three times. -/
theorem retries_verify_of_two_outages :
    sampleErrand.store.current? sampleNow = none ∧
      (∀ answer ∈ sampleOutages, answer.isOutage) ∧
      (sampleOutages.length : Int) < sampleVerifier.maxAttempts ∧
      (sampleVerifier.verify sampleNow (sampleToken samplePayload)
        (sampleErrand.behind sampleOutages)).1 = .ok { sub := some (.text "s") } ∧
      (sampleVerifier.verify sampleNow (sampleToken samplePayload)
        (sampleErrand.behind sampleOutages)).2.fetches = 3 := by
  have hout : ∀ answer ∈ sampleOutages, answer.isOutage := by decide
  have hmet : ∀ i < 1, (sampleErrand.answer i).isOutage = false := by
    intro i hi
    obtain rfl := Nat.lt_one_iff.mp hi
    rfl
  obtain ⟨hresult, hleft⟩ := Retries.transparent
    (retries_verify sampleVerifier sampleNow (sampleToken samplePayload))
    sampleErrand rfl (by rw [fetches_verify_sample]; decide) (by rwa [fetches_verify_sample])
    sampleOutages hout (by decide)
  have haccepted : (sampleVerifier.verify sampleNow (sampleToken samplePayload) sampleErrand).1 =
      .ok { sub := some (.text "s") } := outcome_sampleVerification
  refine ⟨rfl, hout, by decide, hresult.trans haccepted, ?_⟩
  rw [hleft, Errand.recounted, fetches_verify_sample]
  rfl

end Verifier

end LoginGate
