import LoginGate.Jwt.Claims
import LoginGate.Proofs.Result
import Mathlib.Data.Rat.Floor

/-!
# Claims that hold

Claims are checked one after the other: some have to be there, the three times have to fit the
moment, and the issuer has to be the expected one. A time may have a fraction of a second, but only
its whole seconds count: the fraction is cut off towards zero.

## Main definitions

* `Claims.number?`, `Claims.cutOff` : the number that a value gives, and a number without its
  fraction.
* `Claims.Hold` : claims hold at a moment and come from an issuer.
* `Claims.StrayTime` : one of the times of claims has no rule.

## Main results

* `Claims.wholeNumber?_eq` : the whole number of a value is its number without the fraction.
* `Claims.check_eq_ok_iff` : claims pass their check exactly if they hold.
* `Claims.check_eq_breakdown_iff` : which claims break the check down.
* `Claims.Hold.expiresAfter` : claims that hold expire later.
-/

namespace LoginGate

/-! ### Times -/

namespace Claims

/-- A number without its fraction: the next whole number towards zero. -/
def cutOff (x : ℚ) : ℤ := if x < 0 then ⌈x⌉ else ⌊x⌋

theorem cutOff_intCast (i : ℤ) : cutOff i = i := by
  simp [cutOff]

theorem cutOff_of_nonneg {x : ℚ} (h : 0 ≤ x) : cutOff x = ⌊x⌋ := if_neg (not_lt.mpr h)

theorem cutOff_neg (x : ℚ) : cutOff (-x) = -cutOff x := by
  rcases lt_trichotomy x 0 with h | rfl | h
  · simp [cutOff, h, not_lt.mpr h.le, Int.floor_neg]
  · rfl
  · simp [cutOff, h, not_lt.mpr h.le, Int.ceil_neg]

end Claims

namespace Binary64

/-- The size of a value as a quotient, without its fraction. -/
theorem magnitude_eq_cutOff (m : Nat) (e : Int) :
    (magnitude m e : ℤ) = Claims.cutOff
      (if e < 0 then mkRat m (Nat.pow 2 (-e).toNat) else (m * Nat.pow 2 e.toNat : Nat)) := by
  by_cases he : e < 0
  · have hnonneg : (0 : ℚ) ≤ mkRat m (Nat.pow 2 (-e).toNat) :=
      Rat.mkRat_nonneg (Int.natCast_nonneg m) _
    rw [magnitude, if_pos he, if_pos he, Claims.cutOff_of_nonneg hnonneg, Rat.mkRat_eq_div,
      Rat.floor_intCast_div_natCast, Int.natCast_ediv]
  · rw [magnitude, if_neg he, if_neg he]
    exact (Claims.cutOff_intCast _).symm

/-- The whole part of a value is the value without its fraction. -/
theorem truncate?_eq (x : Binary64) : x.truncate? = x.toRat?.map Claims.cutOff := by
  cases x with
  | nan => rfl
  | infinite negative => rfl
  | finite negative m e =>
    cases negative with
    | false => simp [truncate?, toRat?, magnitude_eq_cutOff]
    | true => simp [truncate?, toRat?, magnitude_eq_cutOff, Claims.cutOff_neg]

end Binary64

namespace Claims

/-- The number that a value gives. -/
def number? : Json → Option ℚ
  | .int i => some i
  | .bool b => some (if b then 1 else 0)
  | .float x => x.toRat?
  | .str s => (Numeral.readInt? s).map (↑)
  | _ => none

/-- The whole number of a value is its number without the fraction. -/
theorem wholeNumber?_eq (json : Json) : wholeNumber? json = (number? json).map cutOff := by
  cases json with
  | int i => simp [wholeNumber?, number?, cutOff_intCast]
  | bool b => cases b <;> simp [wholeNumber?, number?, cutOff]
  | float x => exact x.truncate?_eq
  | str s => simp [wholeNumber?, number?, Function.comp_def, cutOff_intCast]
  | _ => rfl

/-- The time of a claim, in seconds. -/
def time? (claims : Json) (name : String) : Option ℚ := (claims.get? name).bind number?

/-- A time that gives no number, and that the platform has no rule for. -/
def IsStray (platform : Platform) (claims : Json) (name : String) : Prop :=
  ∃ value, claims.get? name = some value ∧ number? value = none ∧
    platform.refusesTime value = false

section

variable {platform : Platform} {claims : Json} {name : String} {kind missed : Jwt.Fault}
  {fits : Instant → Bool} {b : Breakdown}

theorem seconds_eq_ok_iff {n : Int} :
    seconds platform claims name kind = .ok n ↔ ∃ x, time? claims name = some x ∧ cutOff x = n := by
  rw [seconds, time?]
  cases claims.get? name with
  | none => simp
  | some value =>
    simp only [Option.bind_some, wholeNumber?_eq]
    cases number? value with
    | none => cases platform.refusesTime value <;> simp
    | some x => simp

theorem seconds_eq_breakdown_iff :
    seconds platform claims name kind = .error (.breakdown b) ↔
      b = .timeKind ∧ IsStray platform claims name := by
  rw [seconds, IsStray]
  cases claims.get? name with
  | none => simp
  | some value =>
    simp only [Option.some.injEq, exists_eq_left', wholeNumber?_eq]
    cases number? value with
    | none => cases platform.refusesTime value <;> simp [eq_comm]
    | some x => simp

theorem refuse_eq_ok_iff {F : Type} {condition : Bool} {reason : F} :
    refuse condition reason = .ok () ↔ condition = false := by
  cases condition <;> simp [refuse]

theorem refuse_fault_ne_breakdown {F : Type} {condition : Bool} {fault : F} :
    refuse condition (.fault fault : Failure F) ≠ .error (.breakdown b) := by
  cases condition <;> simp [refuse]

theorem checkTime_eq_ok_iff :
    checkTime platform claims name kind missed fits = .ok () ↔
      ∃ x, time? claims name = some x ∧ fits (cutOff x * microsPerSecond) := by
  rw [checkTime]
  refine Result.bind_eq_ok_iff.trans ?_
  simp only [seconds_eq_ok_iff, refuse_eq_ok_iff, Bool.not_eq_false']
  constructor
  · rintro ⟨_, ⟨x, hx, rfl⟩, hfits⟩
    exact ⟨x, hx, hfits⟩
  · rintro ⟨x, hx, hfits⟩
    exact ⟨_, ⟨x, hx, rfl⟩, hfits⟩

theorem checkTime_eq_breakdown_iff :
    checkTime platform claims name kind missed fits = .error (.breakdown b) ↔
      b = .timeKind ∧ IsStray platform claims name := by
  rw [checkTime]
  refine (Result.bind_eq_error_iff.trans (or_iff_left ?_)).trans seconds_eq_breakdown_iff
  rintro ⟨time, -, hrefuse⟩
  exact refuse_fault_ne_breakdown hrefuse

end

/-! ### Checks -/

/-- A claim is a text, or it is not there. -/
def IsText (claims : Json) (name : String) : Prop :=
  ∀ json, claims.get? name = some json → json.codeString?.isSome

/-- Claims hold at a moment and come from an issuer. Of their times only the whole seconds count. -/
structure Hold (claims : Json) (issuer : String) (now : Instant) : Prop where
  present : ∀ name ∈ requiredNames, ∃ json, claims.get? name = some json ∧ json ≠ .null
  issued : ∃ x, time? claims "iat" = some x ∧ cutOff x * microsPerSecond ≤ now
  started : (claims.get? "nbf").isSome →
    ∃ x, time? claims "nbf" = some x ∧ cutOff x * microsPerSecond ≤ now
  unexpired : ∃ x, time? claims "exp" = some x ∧ now < cutOff x * microsPerSecond
  issuer : claims.get? "iss" = some (.str issuer)
  subject : IsText claims "sub"
  tokenId : IsText claims "jti"

theorem isAbsent_eq_false_iff {claims : Json} {name : String} :
    isAbsent claims name = false ↔ ∃ json, claims.get? name = some json ∧ json ≠ .null := by
  rw [isAbsent]
  cases claims.get? name with
  | none => simp
  | some json => cases json <;> simp

theorem checkPresent_eq_ok_iff {claims : Json} {names : List String} :
    checkPresent claims names = .ok () ↔ ∀ name ∈ names, isAbsent claims name = false := by
  induction names with
  | nil => simp [checkPresent]
  | cons name names ih =>
    rw [checkPresent]
    cases habsent : isAbsent claims name <;> simp [habsent, ih]

theorem checkText_eq_ok_iff {claims : Json} {name : String} {fault : Jwt.Fault} :
    checkText claims name fault = .ok () ↔ IsText claims name := by
  rw [checkText, refuse_eq_ok_iff, IsText]
  cases claims.get? name with
  | none => simp
  | some json => simp [Option.isSome_iff_ne_none]

theorem checkIssuer_eq_ok_iff {claims : Json} {issuer : String} :
    checkIssuer claims issuer = .ok () ↔ claims.get? "iss" = some (.str issuer) := by
  rw [checkIssuer]
  cases claims.get? "iss" with
  | none => simp
  | some json =>
    cases json with
    | str s => simp [refuse_eq_ok_iff]
    | _ => simp

theorem checkNames_eq_ok_iff {claims : Json} {issuer : String} :
    checkNames claims issuer = .ok () ↔
      claims.get? "iss" = some (.str issuer) ∧ IsText claims "sub" ∧ IsText claims "jti" := by
  rw [checkNames]
  refine Result.bind_unit_eq_ok_iff.trans (and_congr checkIssuer_eq_ok_iff ?_)
  exact Result.bind_unit_eq_ok_iff.trans (and_congr checkText_eq_ok_iff checkText_eq_ok_iff)

/-- The claims that have to be there are. -/
def ArePresent (claims : Json) : Prop :=
  ∀ name ∈ requiredNames, ∃ json, claims.get? name = some json ∧ json ≠ .null

/-- A time is no later than the moment, as far as its whole seconds go. -/
def IsPast (claims : Json) (name : String) (now : Instant) : Prop :=
  ∃ x, time? claims name = some x ∧ cutOff x * microsPerSecond ≤ now

section

variable {platform : Platform} {claims : Json} {issuer : String} {now : Instant}

theorem checkPresent_requiredNames_eq_ok_iff :
    checkPresent claims requiredNames = .ok () ↔ ArePresent claims := by
  simp only [checkPresent_eq_ok_iff, isAbsent_eq_false_iff, ArePresent]

theorem checkTime_isPast_iff {name : String} {kind missed : Jwt.Fault} :
    checkTime platform claims name kind missed (· ≤ now) = .ok () ↔ IsPast claims name now := by
  simp only [checkTime_eq_ok_iff, decide_eq_true_eq, IsPast]

theorem checkStart_eq_ok_iff :
    checkStart platform claims now = .ok () ↔
      ((claims.get? "nbf").isSome → IsPast claims "nbf" now) := by
  rw [checkStart]
  split
  case isTrue hsome => simp only [checkTime_isPast_iff, hsome, forall_const]
  case isFalse hnone => simp [hnone]

theorem checkStart_eq_breakdown_iff {b : Breakdown} :
    checkStart platform claims now = .error (.breakdown b) ↔
      b = .timeKind ∧ IsStray platform claims "nbf" := by
  rw [checkStart]
  split
  case isTrue => exact checkTime_eq_breakdown_iff
  case isFalse hnone =>
    have hnot : ¬ IsStray platform claims "nbf" := by
      rintro ⟨value, hvalue, -, -⟩
      simp [hvalue] at hnone
    simp [hnot]

/-- Claims pass their check exactly if they hold. -/
theorem check_eq_ok_iff (platform : Platform) :
    check platform claims issuer now = .ok () ↔ Hold claims issuer now := by
  have hcheck : check platform claims issuer now = .ok () ↔
      ArePresent claims ∧ IsPast claims "iat" now ∧
        ((claims.get? "nbf").isSome → IsPast claims "nbf" now) ∧
        (∃ x, time? claims "exp" = some x ∧ now < cutOff x * microsPerSecond) ∧
        claims.get? "iss" = some (.str issuer) ∧ IsText claims "sub" ∧ IsText claims "jti" := by
    rw [← checkPresent_requiredNames_eq_ok_iff, ← checkNames_eq_ok_iff, check]
    refine Result.bind_unit_eq_ok_iff.trans (and_congr Result.mapError_eq_ok_iff ?_)
    refine Result.bind_unit_eq_ok_iff.trans (and_congr checkTime_isPast_iff ?_)
    refine Result.bind_unit_eq_ok_iff.trans (and_congr checkStart_eq_ok_iff ?_)
    refine Result.bind_unit_eq_ok_iff.trans (and_congr ?_ Result.mapError_eq_ok_iff)
    simp only [checkTime_eq_ok_iff, decide_eq_true_eq]
  rw [hcheck]
  constructor
  · rintro ⟨hpresent, hissued, hstarted, hunexpired, hissuer, hsubject, hid⟩
    exact ⟨hpresent, hissued, hstarted, hunexpired, hissuer, hsubject, hid⟩
  · rintro ⟨hpresent, hissued, hstarted, hunexpired, hissuer, hsubject, hid⟩
    exact ⟨hpresent, hissued, hstarted, hunexpired, hissuer, hsubject, hid⟩

/-- The first of the times that is not in order is one that the platform has no rule for. -/
inductive StrayTime (platform : Platform) (claims : Json) (now : Instant) : Prop
  | issued (hpresent : ArePresent claims) (hstray : IsStray platform claims "iat") :
      StrayTime platform claims now
  | started (hpresent : ArePresent claims) (hissued : IsPast claims "iat" now)
      (hstray : IsStray platform claims "nbf") : StrayTime platform claims now
  | expiry (hpresent : ArePresent claims) (hissued : IsPast claims "iat" now)
      (hstarted : (claims.get? "nbf").isSome → IsPast claims "nbf" now)
      (hstray : IsStray platform claims "exp") : StrayTime platform claims now

/-- The check of claims breaks down exactly by such a time. -/
theorem check_eq_breakdown_iff (issuer : String) {b : Breakdown} :
    check platform claims issuer now = .error (.breakdown b) ↔
      b = .timeKind ∧ StrayTime platform claims now := by
  -- Only the times break the check down, each after what is checked before it has passed.
  have hcheck : check platform claims issuer now = .error (.breakdown b) ↔
      ArePresent claims ∧ ((b = .timeKind ∧ IsStray platform claims "iat") ∨
        IsPast claims "iat" now ∧ ((b = .timeKind ∧ IsStray platform claims "nbf") ∨
          ((claims.get? "nbf").isSome → IsPast claims "nbf" now) ∧
            b = .timeKind ∧ IsStray platform claims "exp")) := by
    rw [← checkPresent_requiredNames_eq_ok_iff, check]
    refine Result.bind_unit_eq_error_iff.trans
      ((or_iff_right Failure.mapError_fault_ne_breakdown).trans
        (and_congr Result.mapError_eq_ok_iff ?_))
    refine Result.bind_unit_eq_error_iff.trans
      (or_congr checkTime_eq_breakdown_iff (and_congr checkTime_isPast_iff ?_))
    refine Result.bind_unit_eq_error_iff.trans
      (or_congr checkStart_eq_breakdown_iff (and_congr checkStart_eq_ok_iff ?_))
    refine Result.bind_unit_eq_error_iff.trans ((or_iff_left ?_).trans checkTime_eq_breakdown_iff)
    exact fun h => Failure.mapError_fault_ne_breakdown h.2
  rw [hcheck]
  constructor
  · rintro ⟨hpresent, ⟨rfl, hstray⟩ | ⟨hissued, ⟨rfl, hstray⟩ | ⟨hstarted, rfl, hstray⟩⟩⟩
    · exact ⟨rfl, .issued hpresent hstray⟩
    · exact ⟨rfl, .started hpresent hissued hstray⟩
    · exact ⟨rfl, .expiry hpresent hissued hstarted hstray⟩
  · rintro ⟨rfl, hstray⟩
    cases hstray with
    | issued hpresent hstray => exact ⟨hpresent, .inl ⟨rfl, hstray⟩⟩
    | started hpresent hissued hstray => exact ⟨hpresent, .inr ⟨hissued, .inl ⟨rfl, hstray⟩⟩⟩
    | expiry hpresent hissued hstarted hstray =>
      exact ⟨hpresent, .inr ⟨hissued, .inr ⟨hstarted, rfl, hstray⟩⟩⟩

end

/-- From 1970 on, claims that hold expire later than the moment, fraction or not. -/
theorem Hold.expiresAfter {claims : Json} {issuer : String} {now : Instant}
    (h : Hold claims issuer now) (hnow : 0 ≤ now) :
    ∃ x, time? claims "exp" = some x ∧ (now : ℚ) < x * microsPerSecond := by
  obtain ⟨x, hx, hlater⟩ := h.unexpired
  refine ⟨x, hx, ?_⟩
  have hpos : 0 < cutOff x * (1000000 : ℤ) := lt_of_le_of_lt hnow hlater
  have hle : (cutOff x : ℚ) ≤ x := by
    rcases lt_or_ge x 0 with hneg | hnonneg
    · have hceil : cutOff x ≤ 0 := by
        rw [cutOff, if_pos hneg]
        exact Int.ceil_le.mpr (by exact_mod_cast hneg.le)
      omega
    · rw [cutOff_of_nonneg hnonneg]
      exact Int.floor_le x
  have hcast : (now : ℚ) < (cutOff x : ℚ) * microsPerSecond := by exact_mod_cast hlater
  refine hcast.trans_le (mul_le_mul_of_nonneg_right hle ?_)
  norm_num [microsPerSecond]

end Claims

end LoginGate
