import LoginGate.Proofs.Jwt.Soundness

/-!
# Verdicts on tokens

A verification is to end with a verdict: with what the token tells, or with why it is refused. It
does, for all answers that the provider may give, unless one of the things breaks it down that have
no rule (`Verifier.Breaks`). They need no unusual key: whoever writes the header can make the
algorithm an array, and the provider can answer with a page that is no JSON.

## Main definitions

* `Verifier.Judges` : a verification ends with a verdict.

## Main results

* `Verifier.judges_iff` : which verifications do, and how the others end.
* `Verifier.unjudged_array_algorithm` : one that does not.
-/

namespace LoginGate

namespace Verifier

variable {verifier : Verifier} {now : Instant} {token : String} {errand : Jwt.Errand}

/-- A verification ends with a verdict: what the token tells of a user, or why it is refused. -/
def Judges (verifier : Verifier) (now : Instant) (token : String) (errand : Jwt.Errand) : Prop :=
  ∃ verdict : Except TokenFault (Profile CodeString),
    (verifier.verify now token errand).1 = verdict.mapError .fault

theorem not_judges_of_breaks {b : Breakdown} (h : verifier.Breaks now token errand b) :
    ¬ verifier.Judges now token errand := fun hjudges =>
  Failure.exists_mapError_fault_iff.mp hjudges b (verify_eq_breakdown_iff.mpr h)

/-- A verification ends with a verdict exactly if nothing breaks it down, whatever key set is at
hand and however the provider answers. Otherwise it ends as what breaks it down says. -/
theorem judges_iff (verifier : Verifier) (now : Instant) (token : String) (errand : Jwt.Errand) :
    (verifier.Judges now token errand ↔ ∀ b, ¬ verifier.Breaks now token errand b) ∧
      ∀ b, verifier.Breaks now token errand b ↔
        (verifier.verify now token errand).1 = .error (.breakdown b) := by
  refine ⟨?_, fun b => verify_eq_breakdown_iff.symm⟩
  constructor
  · exact fun hjudges b hbreaks => not_judges_of_breaks hbreaks hjudges
  · intro hnone
    refine Failure.exists_mapError_fault_iff.mpr fun b hb => ?_
    exact hnone b (verify_eq_breakdown_iff.mp hb)

/-! ### A token whose algorithm is an array -/

/-- The header of the token. -/
def arrayHeader : List (String × Json) := [("alg", .arr [])]

/-- Its bytes. -/
def arrayHeaderBytes : Bytes := Utf8.encode ((Json.obj arrayHeader).render Json.compact)

theorem compose_arrayHeaderBytes :
    Jwt.compose arrayHeaderBytes (Utf8.encode ((Json.obj []).render Json.compact)) [] =
      "eyJhbGciOltdfQ.e30." := by
  decide +kernel

theorem breaks_arrayAlgorithm (now : Instant) (errand : Jwt.Errand) :
    sampleVerifier.Breaks now "eyJhbGciOltdfQ.e30." errand .algorithmKind := by
  have hheader : Json.ofBytes 990 arrayHeaderBytes = .ok (.obj arrayHeader) :=
    Json.ofBytes_of_render (.obj arrayHeader) rfl rfl (by decide +kernel)
  rw [← compose_arrayHeaderBytes]
  exact .algorithmKind (Jwt.load_compose hheader rfl rfl) rfl rfl

/-- Not every verification ends with a verdict: none does for a token whose algorithm is an array,
although nothing is asked of the provider. -/
theorem unjudged_array_algorithm :
    make .standard sampleProvider (.binary (.ofInt 30)) 3 = .ok sampleVerifier ∧
      ¬ sampleVerifier.Judges sampleNow "eyJhbGciOltdfQ.e30." ⟨{}, [], 0⟩ :=
  ⟨make_sampleVerifier, not_judges_of_breaks (breaks_arrayAlgorithm ..)⟩

end Verifier

end LoginGate
