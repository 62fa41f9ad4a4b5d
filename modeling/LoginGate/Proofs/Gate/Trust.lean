import LoginGate.Gate.Grant
import LoginGate.Proofs.Jwt.Soundness

/-!
# What a token tells, verified or not

An administrator decides whether access tokens are verified or read as they stand. A user is the
same either way: what a token tells once it has been verified, it also tells as it stands. As it
stands it tells the same at all times, whatever keys are at hand and whatever signature it bears.

## Main results

* `Jwt.read_of_read` : what is read of a token does not depend on its signature.
* `Profile.ofToken_of_verify` : what a verified token tells, it tells as it stands.
* `Profile.readings_agree` : the two ways of reading a token agree.
-/

namespace LoginGate

variable {platform : Platform}

/-! ### Signatures -/

/-- A token that is taken apart has a last segment. With another one in its place it is taken apart
into the same header and payload. -/
theorem Jwt.load_of_load {token : String} {document : Document}
    (h : load platform token = .ok document) :
    ∃ front last, token = front ++ "." ++ last ∧ '.' ∉ last.toList ∧
      ∀ other signature, segment? other.toList = some signature →
        load platform (front ++ "." ++ other) = .ok { document with signature } := by
  obtain ⟨first, middle, last, htoken, hfirst, hlast, hheader, hdetached, hpayload, -, hcheck,
    hsigned⟩ := load_eq_ok_iff.mp h
  refine ⟨String.ofList (first ++ '.' :: middle), String.ofList last, ?_, by simpa using hlast, ?_⟩
  · rw [← String.toList_inj]
    simp [htoken]
  · intro other signature hother
    exact load_eq_ok_iff.mpr ⟨first, middle, other.toList, by simp, hfirst,
      point_notMem_of_segment? hother, hheader, hdetached, hpayload, hother, hcheck, hsigned⟩

/-- What is read of a token does not depend on its signature. -/
theorem Jwt.read_of_read {token : String} {header claims : Json}
    (h : read platform token = .ok (header, claims)) :
    ∃ front last, token = front ++ "." ++ last ∧ '.' ∉ last.toList ∧
      ∀ other, (segment? other.toList).isSome →
        read platform (front ++ "." ++ other) = .ok (header, claims) := by
  obtain ⟨document, hload, hattached, rfl, hclaims⟩ := read_eq_ok_iff.mp h
  obtain ⟨front, last, htoken, hlast, hreplaced⟩ := load_of_load hload
  refine ⟨front, last, htoken, hlast, fun other hother => ?_⟩
  obtain ⟨signature, hsignature⟩ := Option.isSome_iff_exists.mp hother
  exact read_eq_ok_iff.mpr ⟨_, hreplaced other signature hsignature, hattached, rfl, hclaims⟩

theorem Profile.ofToken_eq_ok_iff {token : String} {profile : Profile CodeString} :
    ofToken platform token = .ok profile ↔ ∃ header claims,
      Jwt.read platform token = .ok (header, claims) ∧ Claims.profile claims = profile := by
  rw [ofToken]
  cases Jwt.read platform token with
  | error fault => simp
  | ok found => simp [Prod.ext_iff]

/-! ### Verified tokens -/

/-- What a token tells that has been verified, it tells as it stands. -/
theorem Profile.ofToken_of_verify {verifier : Verifier} {now : Instant} {token : String}
    {errand : Jwt.Errand} {profile : Profile CodeString}
    (h : (verifier.verify now token errand).1 = .ok profile) :
    ofToken verifier.platform token = .ok profile := by
  obtain ⟨document, algorithm, key, claims, hload, -, hkey, hchecked, rfl⟩ :=
    Verifier.verify_eq_ok_iff.mp h
  obtain ⟨-, hclaims, -⟩ := Verifier.checkedClaims_eq_ok_iff.mp hchecked
  -- The key is looked for by what is read of the token as it stands.
  obtain ⟨header, read, hread, -⟩ := Verifier.offers_of_keyFor hkey
  obtain ⟨found, hfound, -, -, hsame⟩ := Jwt.read_eq_ok_iff.mp hread
  cases hload.symm.trans hfound
  cases hclaims.symm.trans hsame
  exact ofToken_eq_ok_iff.mpr ⟨header, claims, hread, rfl⟩

/-- A gate that does not verify tokens takes them as they stand. -/
theorem Gate.profile_of_decoded {gate : Gate} (h : gate.verifier = none) (now : Instant)
    (token : String) (errand : Jwt.Errand) :
    gate.profile now token errand = (Profile.ofToken gate.platform token, errand) := by
  rw [profile, h]

namespace Profile

/-- The two ways of reading a token agree: what a token tells that has been verified, at whatever
time and with whatever keys, it tells as it stands. What it tells as it stands it tells every gate
on the same platform that does not verify it, at all times and whatever keys are at hand, and it
tells the same with any other signature in the place of its own. -/
theorem readings_agree (token : String) :
    (∀ (verifier : Verifier) now errand profile,
        (verifier.verify now token errand).1 = .ok profile →
          ofToken verifier.platform token = .ok profile) ∧
      ∀ platform profile, ofToken platform token = .ok profile →
        (∀ gate : Gate, gate.platform = platform → gate.verifier = none → ∀ now errand,
          gate.profile now token errand = (.ok profile, errand)) ∧
        ∃ front last, token = front ++ "." ++ last ∧ '.' ∉ last.toList ∧
          ∀ signature, (Jwt.segment? signature.toList).isSome →
            ofToken platform (front ++ "." ++ signature) = .ok profile := by
  refine ⟨fun verifier now errand profile => ofToken_of_verify,
    fun platform profile htold => ⟨?_, ?_⟩⟩
  · rintro gate rfl hgate now errand
    rw [Gate.profile_of_decoded hgate, htold]
  · obtain ⟨header, claims, hread, rfl⟩ := ofToken_eq_ok_iff.mp htold
    obtain ⟨front, last, htoken, hlast, hreplaced⟩ := Jwt.read_of_read hread
    exact ⟨front, last, htoken, hlast, fun signature hsignature =>
      ofToken_eq_ok_iff.mpr ⟨header, claims, hreplaced signature hsignature, rfl⟩⟩

/-- A token that has been verified tells the same as it stands, and with an empty signature. -/
theorem readings_agree_without_signature :
    (Verifier.sampleVerifier.verify Verifier.sampleNow (Verifier.sampleToken Verifier.samplePayload)
        Verifier.sampleErrand).1 = .ok { sub := some (.text "s") } ∧
      ofToken .standard (Verifier.sampleToken Verifier.samplePayload) =
        .ok { sub := some (.text "s") } ∧
      ∃ front last, Verifier.sampleToken Verifier.samplePayload = front ++ "." ++ last ∧
        '.' ∉ last.toList ∧
        ofToken .standard (front ++ "." ++ "") = .ok { sub := some (.text "s") } := by
  obtain ⟨hverified, hread⟩ := readings_agree (Verifier.sampleToken Verifier.samplePayload)
  have hstands := hverified _ _ _ _ Verifier.outcome_sampleVerification
  obtain ⟨-, front, last, htoken, hlast, hreplaced⟩ := hread _ _ hstands
  exact ⟨Verifier.outcome_sampleVerification, hstands, front, last, htoken, hlast,
    hreplaced "" (by decide)⟩

end Profile

end LoginGate
