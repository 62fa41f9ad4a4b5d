import LoginGate.Breakdown

/-!
# Results in steps

What is computed in steps fails in the first step that fails. These equations take such results
apart.

## Main results

* `Result.bind_eq_ok_iff` : what every step of a success gives.
* `Result.map_eq_error_iff`, `Result.bind_eq_error_iff` : where a failure comes from.
* `Result.exists_mapM_iff`, `Result.mapM_eq_error_iff` : when several steps of one kind succeed, and
  where they fail.
* `Result.mem_iff_of_mapM` : what several steps of one kind give.
* `Result.mapError_ok`, `Result.mapError_error` : failures under another name.
* `Failure.exists_mapError_fault_iff` : which results are no breakdown.
-/

namespace LoginGate.Result

variable {ε ε' α β : Type} {result : Except ε α} {e : ε}

instance decEq [DecidableEq ε] [DecidableEq α] : DecidableEq (Except ε α)
  | .ok a, .ok b => decidable_of_iff (a = b) (by simp)
  | .error d, .error e => decidable_of_iff (d = e) (by simp)
  | .ok _, .error _ => .isFalse nofun
  | .error _, .ok _ => .isFalse nofun

/-- A result is a failure exactly if it gives nothing. -/
theorem exists_error_iff : (∃ e, result = .error e) ↔ ∀ a, result ≠ .ok a := by
  cases result <;> simp

/-- A result gives something if an option made of it does. -/
theorem exists_ok_of_isSome (h : result.toOption.isSome) : ∃ a, result = .ok a := by
  cases result with
  | error e => cases h
  | ok a => exact ⟨a, rfl⟩

theorem map_eq_ok_iff {f : α → β} {b : β} :
    result.map f = .ok b ↔ ∃ a, result = .ok a ∧ f a = b := by
  cases result <;> simp [Except.map]

theorem map_eq_error_iff {f : α → β} : result.map f = .error e ↔ result = .error e := by
  cases result <;> simp [Except.map]

theorem bind_eq_ok_iff {f : α → Except ε β} {b : β} :
    result.bind f = .ok b ↔ ∃ a, result = .ok a ∧ f a = .ok b := by
  cases result <;> simp [Except.bind]

/-- A step that gives nothing but its success. -/
theorem bind_unit_eq_ok_iff {result : Except ε Unit} {f : Unit → Except ε β} {b : β} :
    result.bind f = .ok b ↔ result = .ok () ∧ f () = .ok b := by
  cases result <;> simp [Except.bind]

theorem bind_eq_error_iff {f : α → Except ε β} :
    result.bind f = .error e ↔ result = .error e ∨ ∃ a, result = .ok a ∧ f a = .error e := by
  cases result <;> simp [Except.bind]

theorem bind_unit_eq_error_iff {result : Except ε Unit} {f : Unit → Except ε β} :
    result.bind f = .error e ↔ result = .error e ∨ (result = .ok () ∧ f () = .error e) := by
  cases result <;> simp [Except.bind]

@[simp]
theorem mapError_ok (f : ε → ε') (a : α) : (Except.ok a).mapError f = .ok a := rfl

@[simp]
theorem mapError_error (f : ε → ε') (e : ε) :
    (Except.error e : Except ε α).mapError f = .error (f e) := rfl

@[simp]
theorem toOption_ok (a : α) : (Except.ok a : Except ε α).toOption = some a := rfl

@[simp]
theorem toOption_error (e : ε) : (Except.error e : Except ε α).toOption = none := rfl

theorem toOption_eq_some_iff {a : α} : result.toOption = some a ↔ result = .ok a := by
  cases result <;> simp

/-- A result that is told by whether something holds. -/
theorem eq_of_toOption_eq_ite {holds : Bool} {a : α}
    (h : result.toOption = if holds then some a else none) :
    (holds = true ∧ result = .ok a) ∨ (holds = false ∧ ∃ e, result = .error e) := by
  cases result <;> cases holds <;> simp_all

theorem mapError_eq_ok_iff {f : ε → ε'} {a : α} :
    result.mapError f = .ok a ↔ result = .ok a := by
  cases result <;> simp

theorem mapError_eq_error_iff {f : ε → ε'} {e' : ε'} :
    result.mapError f = .error e' ↔ ∃ e, result = .error e ∧ f e = e' := by
  cases result <;> simp

/-- What several steps of one kind give, one after the other. -/
theorem mapM_cons_eq_ok_iff {f : α → Except ε β} {a : α} {as : List α} {bs : List β} :
    (a :: as).mapM f = .ok bs ↔
      ∃ b rest, f a = .ok b ∧ as.mapM f = .ok rest ∧ bs = b :: rest := by
  rw [List.mapM_cons]
  constructor
  · intro h
    obtain ⟨b, hb, h⟩ := bind_eq_ok_iff.mp h
    obtain ⟨rest, hrest, h⟩ := bind_eq_ok_iff.mp h
    exact ⟨b, rest, hb, hrest, (Except.ok.inj h).symm⟩
  · rintro ⟨b, rest, hb, hrest, rfl⟩
    exact bind_eq_ok_iff.mpr ⟨b, hb, bind_eq_ok_iff.mpr ⟨rest, hrest, rfl⟩⟩

/-- Several steps of one kind succeed exactly if each of them does. -/
theorem exists_mapM_iff {f : α → Except ε β} {as : List α} :
    (∃ bs, as.mapM f = .ok bs) ↔ ∀ a ∈ as, ∃ b, f a = .ok b := by
  induction as with
  | nil => exact ⟨fun _ => nofun, fun _ => ⟨[], rfl⟩⟩
  | cons a as ih =>
    rw [List.forall_mem_cons, ← ih]
    constructor
    · rintro ⟨bs, h⟩
      obtain ⟨b, rest, hb, hrest, -⟩ := mapM_cons_eq_ok_iff.mp h
      exact ⟨⟨b, hb⟩, rest, hrest⟩
    · rintro ⟨⟨b, hb⟩, rest, hrest⟩
      exact ⟨b :: rest, mapM_cons_eq_ok_iff.mpr ⟨b, rest, hb, hrest, rfl⟩⟩

/-- Steps of another kind that give the same where those of the first succeed. -/
theorem mapM_of_mapM {f : α → Except ε β} {g : α → Except ε' β} {as : List α} {bs : List β}
    (hfg : ∀ a b, f a = .ok b → g a = .ok b) (h : as.mapM f = .ok bs) : as.mapM g = .ok bs := by
  induction as generalizing bs with
  | nil =>
    obtain rfl : [] = bs := Except.ok.inj h
    rfl
  | cons a as ih =>
    obtain ⟨b, rest, hb, hrest, rfl⟩ := mapM_cons_eq_ok_iff.mp h
    exact mapM_cons_eq_ok_iff.mpr ⟨b, rest, hfg a b hb, ih hrest, rfl⟩

/-- What several steps of one kind give is what each of them gives. -/
theorem mem_iff_of_mapM {f : α → Except ε β} {as : List α} {bs : List β}
    (h : as.mapM f = .ok bs) {b : β} : b ∈ bs ↔ ∃ a ∈ as, f a = .ok b := by
  induction as generalizing bs with
  | nil =>
    obtain rfl : [] = bs := Except.ok.inj h
    simp
  | cons a as ih =>
    obtain ⟨first, rest, hfirst, hrest, rfl⟩ := mapM_cons_eq_ok_iff.mp h
    rw [List.mem_cons, ih hrest]
    constructor
    · rintro (rfl | ⟨a', ha', hb⟩)
      · exact ⟨a, List.mem_cons_self, hfirst⟩
      · exact ⟨a', List.mem_cons_of_mem _ ha', hb⟩
    · rintro ⟨a', ha', hb⟩
      rcases List.mem_cons.mp ha' with rfl | ha'
      · exact .inl (Except.ok.inj (hb.symm.trans hfirst))
      · exact .inr ⟨a', ha', hb⟩

/-- Several steps of one kind fail in the first one that fails. -/
theorem mapM_eq_error_iff {f : α → Except ε β} {as : List α} :
    as.mapM f = .error e ↔ ∃ before a after,
      as = before ++ a :: after ∧ (∃ bs, before.mapM f = .ok bs) ∧ f a = .error e := by
  induction as with
  | nil => simp [List.mapM_nil, pure, Except.pure]
  | cons first as ih =>
    rw [List.mapM_cons]
    refine bind_eq_error_iff.trans ?_
    constructor
    · rintro (hfirst | ⟨b, hb, hrest⟩)
      · exact ⟨[], first, as, rfl, ⟨[], rfl⟩, hfirst⟩
      · rcases bind_eq_error_iff.mp hrest with hrest | ⟨bs, -, hpure⟩
        · obtain ⟨before, a, after, rfl, ⟨bs, hbefore⟩, ha⟩ := ih.mp hrest
          exact ⟨first :: before, a, after, rfl,
            ⟨_, mapM_cons_eq_ok_iff.mpr ⟨b, bs, hb, hbefore, rfl⟩⟩, ha⟩
        · cases hpure
    · rintro ⟨before, a, after, has, ⟨bs, hbefore⟩, ha⟩
      rcases List.cons_eq_append_iff.mp has with ⟨rfl, hsame⟩ | ⟨rest, rfl, rfl⟩
      · obtain ⟨rfl, rfl⟩ := List.cons.inj hsame
        exact .inl ha
      · obtain ⟨b, bs, hb, hrest, rfl⟩ := mapM_cons_eq_ok_iff.mp hbefore
        refine .inr ⟨b, hb, bind_eq_error_iff.mpr (.inl (ih.mpr ?_))⟩
        exact ⟨rest, a, after, rfl, ⟨bs, hrest⟩, ha⟩

end LoginGate.Result

namespace LoginGate.Failure

variable {F G α : Type} {b : Breakdown}

/-! ### Faults and breakdowns -/

@[simp]
theorem map_eq_breakdown_iff {tell : F → G} {failure : Failure F} :
    failure.map tell = .breakdown b ↔ failure = .breakdown b := by
  cases failure <;> simp [map]

@[simp]
theorem map_eq_fault_iff {tell : F → G} {failure : Failure F} {told : G} :
    failure.map tell = .fault told ↔ ∃ fault, failure = .fault fault ∧ tell fault = told := by
  cases failure <;> simp [map]

theorem mapError_fault_ne_breakdown {result : Except F α} :
    result.mapError .fault ≠ (.error (.breakdown b) : Except (Failure F) α) := by
  cases result <;> simp

/-- A result is a success or a fault exactly if it is no breakdown. -/
theorem exists_mapError_fault_iff {result : Except (Failure F) α} :
    (∃ verdict : Except F α, result = verdict.mapError .fault) ↔
      ∀ b, result ≠ .error (.breakdown b) := by
  constructor
  · rintro ⟨verdict, rfl⟩ b
    cases verdict <;> simp
  · intro h
    cases result with
    | ok a => exact ⟨.ok a, rfl⟩
    | error failure =>
      cases failure with
      | fault fault => exact ⟨.error fault, rfl⟩
      | breakdown b => exact absurd rfl (h b)

end LoginGate.Failure
