import LoginGate.Proofs.Numeral.Decimal
import LoginGate.Proofs.Time.Civil
import LoginGate.Time.Reader

/-!
# Timestamps are read back

The text of a UTC timestamp of the years 1 to 9999 is read as that timestamp, to the microsecond.
Each reader of a part takes exactly the characters of that part and leaves the rest, so the proof
goes through the text from left to right.

## Main results

* `Timestamp.digits?_padded` : a number of a fixed width is read back.
* `Timestamp.ofText_text_ofInstant` : a UTC timestamp is read back.
-/

namespace LoginGate.Timestamp

/-! ### Numbers -/

theorem digits?_append {ds : List Char} (h : ∀ c ∈ ds, isAsciiDigit c) (n : Nat)
    (rest : List Char) :
    digits? ds.length n (ds ++ rest) =
      some (ds.foldl (fun n c => n * 10 + (c.toNat - 48)) n, rest) := by
  induction ds generalizing n with
  | nil => rfl
  | cons c ds ih =>
    have hc : isAsciiDigit c := h c (List.mem_cons_self ..)
    rw [List.cons_append, List.length_cons, digits?, if_pos hc, List.foldl_cons]
    exact ih (fun d hd => h d (List.mem_cons_of_mem _ hd)) _

/-- A number of a fixed width is read back. -/
theorem digits?_padded {width n : Nat} (h : n < 10 ^ width) (hw : 0 < width) (rest : List Char) :
    digits? width 0 ((padded width n).toList ++ rest) = some (n, rest) := by
  have hdigits : ∀ c ∈ (padded width n).toList, isAsciiDigit c :=
    fun c hc => isAsciiDigit_of_mem_padded hc
  have hread := digits?_append hdigits 0 rest
  rw [length_padded h hw] at hread
  rw [hread]
  exact congrArg (fun m => some (m, rest)) (digitsValue_padded width n)

theorem char?_cons (c : Char) (rest : List Char) : char? c (c :: rest) = some rest := by
  rw [char?, if_pos rfl]

/-! ### Parts of a timestamp -/

/-- A date of the years 1 to 9999 that exists is read back. -/
theorem date?_text {date : Civil} (hvalid : date.isValid) (hlow : 1 ≤ date.year)
    (hhigh : date.year ≤ 9999) (rest : List Char) :
    date? ((padded 4 date.year.toNat).toList ++ '-' :: ((padded 2 date.month).toList ++
      '-' :: ((padded 2 date.day).toList ++ rest))) = some (date, rest) := by
  have hmonth : date.month ≤ 12 ∧ date.day ≤ 31 := by
    simp only [Civil.isValid, Bool.and_eq_true, decide_eq_true_eq] at hvalid
    have hdays : Civil.daysInMonth date.year date.month ≤ 31 := by
      rw [Civil.daysInMonth]
      split
      · split <;> omega
      · split <;> omega
    exact ⟨hvalid.1.1.2, Nat.le_trans hvalid.2 hdays⟩
  have hyear : ((date.year.toNat : Nat) : Int) = date.year := Int.toNat_of_nonneg (by omega)
  rw [date?, digits?_padded (by omega) (by decide)]
  simp only [Option.bind_eq_bind, Option.bind_some, char?_cons]
  rw [digits?_padded (by omega) (by decide)]
  simp only [Option.bind_some, char?_cons]
  rw [digits?_padded (by omega) (by decide)]
  simp only [Option.bind_some, hyear, hvalid, if_true]

theorem microsOf_padded {micros : Nat} (h : micros < 1000000) :
    microsOf (padded 6 micros).toList = micros := by
  have hlen : (padded 6 micros).toList.length = 6 := length_padded (by omega) (by decide)
  rw [microsOf, List.take_left' hlen, digitsValue_padded]

/-- Seconds with a fraction where there is one are read back, if nothing that follows belongs to
them. -/
theorem seconds?_text {seconds micros : Nat} (hs : seconds < 60) (hm : micros < 1000000)
    {c : Char} {rest : List Char} (hc : isAsciiDigit c = false) (hpoint : c ≠ '.')
    (hcomma : c ≠ ',') :
    seconds? (':' :: ((padded 2 seconds).toList ++
      ((if micros = 0 then "" else "." ++ padded 6 micros).toList ++ c :: rest))) =
        some (seconds * 1000000 + micros, c :: rest) := by
  have hle : ¬ 59 < seconds := by omega
  rw [seconds?, digits?_padded (by omega) (by decide)]
  simp only [Option.bind_eq_bind, Option.bind_some, if_neg hle]
  by_cases hzero : micros = 0
  · simp [hzero, hpoint, hcomma]
  · have hall : ∀ d ∈ (padded 6 micros).toList, isAsciiDigit d :=
      fun d hd => isAsciiDigit_of_mem_padded hd
    have hlen : (padded 6 micros).toList.length = 6 := length_padded (by omega) (by decide)
    have htake : ((padded 6 micros).toList ++ c :: rest).takeWhile isAsciiDigit =
        (padded 6 micros).toList := by
      rw [List.takeWhile_append_of_pos hall]
      simp [hc]
    have hdrop : ((padded 6 micros).toList ++ c :: rest).dropWhile isAsciiDigit = c :: rest := by
      rw [List.dropWhile_append_of_pos hall]
      simp [hc]
    have hne : (padded 6 micros).toList.isEmpty = false := by
      cases hds : (padded 6 micros).toList with
      | nil => simp [hds] at hlen
      | cons => rfl
    simp [hzero, htake, hdrop, hne, microsOf_padded hm]

/-- A time of day is read back. -/
theorem time?_text {seconds micros : Nat} (hs : seconds < 86400) (hm : micros < 1000000)
    {c : Char} {rest : List Char} (hc : isAsciiDigit c = false) (hpoint : c ≠ '.')
    (hcomma : c ≠ ',') :
    time? ((padded 2 (seconds / 3600)).toList ++ ':' :: ((padded 2 (seconds / 60 % 60)).toList ++
      ':' :: ((padded 2 (seconds % 60)).toList ++
        ((if micros = 0 then "" else "." ++ padded 6 micros).toList ++ c :: rest)))) =
          some (seconds * 1000000 + micros, c :: rest) := by
  have hclock : ¬ (23 < seconds / 3600 ∨ 59 < seconds / 60 % 60) := by omega
  rw [time?, digits?_padded (by omega) (by decide)]
  simp only [Option.bind_eq_bind, Option.bind_some, char?_cons]
  rw [digits?_padded (by omega) (by decide)]
  simp only [Option.bind_some, if_neg hclock]
  rw [seconds?_text (by omega) hm hc hpoint hcomma]
  simp only [Option.bind_some, Option.some.injEq, Prod.mk.injEq, and_true]
  omega

/-! ### Whole timestamps -/

/-- The characters of date and time. -/
theorem toList_wallText (wall : Int) :
    let date := Civil.ofDays (wall.fdiv microsPerDay)
    let rest := (wall.fmod microsPerDay).toNat
    (wallText wall).toList =
      (padded 4 date.year.toNat).toList ++ '-' :: ((padded 2 date.month).toList ++
        '-' :: ((padded 2 date.day).toList ++ 'T' :: ((padded 2 (rest / 1000000 / 3600)).toList ++
          ':' :: ((padded 2 (rest / 1000000 / 60 % 60)).toList ++
            ':' :: ((padded 2 (rest / 1000000 % 60)).toList ++
              (if rest % 1000000 = 0 then ""
                else "." ++ padded 6 (rest % 1000000)).toList))))) := by
  simp only [wallText, String.toList_append]
  simp

/-- A UTC timestamp of the years 1 to 9999 is read back. -/
theorem ofText_text_ofInstant {wall : Int} (h : inRange wall) :
    ofText (text (ofInstant wall)) = .ok (ofInstant wall) := by
  have hrange : minWall ≤ wall ∧ wall ≤ maxWall := by simpa [inRange] using h
  rw [minWall, maxWall] at hrange
  have hdays : wall.fdiv microsPerDay = wall / 86400000000 :=
    Int.fdiv_eq_ediv_of_nonneg _ (by decide)
  have hrest : wall.fmod microsPerDay = wall % 86400000000 :=
    Int.fmod_eq_emod_of_nonneg _ (by decide)
  have hfirst : -719162 ≤ wall.fdiv microsPerDay := by omega
  have hlast : wall.fdiv microsPerDay ≤ 2932896 := by omega
  obtain ⟨hlow, hhigh⟩ := Civil.year_ofDays_mem hfirst hlast
  have hwhole : (wall.fdiv microsPerDay) * microsPerDay +
      ((wall.fmod microsPerDay).toNat / 1000000 * 1000000 +
        (wall.fmod microsPerDay).toNat % 1000000 : Nat) = wall := by
    rw [hdays, hrest, microsPerDay]
    omega
  have hseconds : (wall.fmod microsPerDay).toNat / 1000000 < 86400 := by rw [hrest]; omega
  have hread : dateTime? (text (ofInstant wall)).toList = some (ofInstant wall) := by
    have htext : (text (ofInstant wall)).toList = (wallText wall).toList ++ ['Z'] := by
      simp [text, ofInstant, String.toList_append]
    rw [htext, toList_wallText]
    simp only [List.append_assoc, List.cons_append]
    rw [dateTime?, date?_text (Civil.isValid_ofDays _) hlow hhigh]
    simp only [Option.bind_eq_bind, Option.bind_some, true_or, if_true]
    rw [time?_text hseconds (Nat.mod_lt _ (by decide)) (by decide) (by decide) (by decide)]
    simp only [Option.bind_some, zone?, Civil.toDays_ofDays, List.isEmpty_nil, true_or, if_true,
      hwhole, ofInstant]
  rw [ofText, hread]
  simp only [checked, ofInstant, h, if_true]

end LoginGate.Timestamp
