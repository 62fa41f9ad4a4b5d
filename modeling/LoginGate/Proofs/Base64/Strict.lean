import LoginGate.Base64.Basic
import Mathlib.Data.List.Basic

/-!
# What the strict base64 reader accepts

The strict reader goes character by character and keeps an unfinished group. What it accepts can be
said group by group: four characters of the alphabet, as often as wanted, then perhaps a group of
two or three with the padding that completes it. Behind full groups it also accepts padding of any
length, which stands for nothing, but no text may start with it.

## Main definitions

* `Base64.StrictText` : groups with their padding, and the bytes in them.

## Main results

* `Base64.readStrict?_eq_some_iff` : the strict reader accepts exactly these texts.
-/

namespace LoginGate.Base64

/-- A text of groups with padding, and the bytes in them. -/
inductive StrictText : List Char → Bytes → Prop
  /-- Padding behind full groups. -/
  | padding (count : Nat) : StrictText (List.replicate count '=') []
  /-- A group of two characters with its padding. -/
  | two {a b : Char} {x y : Nat} (ha : standardValue? a = some x) (hb : standardValue? b = some y) :
      StrictText [a, b, '=', '='] (partialGroup [x, y])
  /-- A group of three characters with its padding. -/
  | three {a b c : Char} {x y z : Nat} (ha : standardValue? a = some x)
      (hb : standardValue? b = some y) (hc : standardValue? c = some z) :
      StrictText [a, b, c, '='] (partialGroup [x, y, z])
  /-- A full group in front. -/
  | group {a b c d : Char} {x y z w : Nat} {rest : List Char} {bytes : Bytes}
      (ha : standardValue? a = some x) (hb : standardValue? b = some y)
      (hc : standardValue? c = some z) (hd : standardValue? d = some w)
      (hrest : StrictText rest bytes) : StrictText (a :: b :: c :: d :: rest)
        (fullGroup x y z w ++ bytes)

variable {held : List Nat} {c : Char} {rest : List Char} {bytes : Bytes} {w x y z : Nat}

/-! ### One character -/

/-- A character of the alphabet goes into the group. -/
theorem scanStrict_digit (held : List Nat) (rest : List Char) (hc : standardValue? c = some w) :
    scanStrict standardValue? held 0 (c :: rest) =
      (scanStrict standardValue? (extendGroup held w).2 0 rest).map
        ((extendGroup held w).1 ++ ·) := by
  have hpad : c ≠ '=' := by
    rintro rfl
    cases hc
  rw [scanStrict, if_neg hpad, if_neg (by decide)]
  simp only [hc]

/-- A character that is accepted is padding or goes into the group. -/
theorem pad_or_digit (h : scanStrict standardValue? held 0 (c :: rest) = some bytes) :
    c = '=' ∨ ∃ w later, standardValue? c = some w ∧
      scanStrict standardValue? (extendGroup held w).2 0 rest = some later ∧
      (extendGroup held w).1 ++ later = bytes := by
  by_cases hpad : c = '='
  · exact .inl hpad
  · cases hc : standardValue? c with
    | none =>
      rw [scanStrict, if_neg hpad, if_neg (by decide)] at h
      simp [hc] at h
    | some w =>
      rw [scanStrict_digit held rest hc] at h
      obtain ⟨later, hlater, hbytes⟩ := Option.map_eq_some_iff.mp h
      exact .inr ⟨w, later, rfl, hlater, hbytes⟩

/-- Within a group a text does not end. -/
theorem exists_cons_of_held (hheld : held ≠ [])
    (h : scanStrict standardValue? held 0 rest = some bytes) : ∃ c more, rest = c :: more := by
  cases rest with
  | nil =>
    rw [scanStrict, if_neg (by simpa using hheld)] at h
    cases h
  | cons c more => exact ⟨c, more, rfl⟩

/-! ### Padding -/

/-- Behind padding that completes nothing there is nothing but padding. -/
theorem scanStrict_pads_eq_some_iff {pads : Nat} (hpads : pads ≠ 0) :
    scanStrict standardValue? [] pads rest = some bytes ↔
      rest = List.replicate rest.length '=' ∧ bytes = [] := by
  induction rest generalizing pads with
  | nil => simp [scanStrict, eq_comm]
  | cons c rest ih =>
    rw [scanStrict]
    by_cases hc : c = '='
    · simp [hc, ih (Nat.succ_ne_zero pads), List.replicate_succ]
    · simp [hc, hpads, List.replicate_succ]

/-- A single character is completed by no padding. -/
theorem scanStrict_one_pads (x pads : Nat) (rest : List Char) :
    scanStrict standardValue? [x] pads ('=' :: rest) = none := by
  induction rest generalizing pads with
  | nil => simp [scanStrict]
  | cons c rest ih =>
    rw [scanStrict]
    by_cases hc : c = '='
    · simp [hc, ih]
    · simp [hc, scanStrict]

theorem scanStrict_two_pads_eq_some_iff :
    scanStrict standardValue? [x, y] 0 ('=' :: rest) = some bytes ↔
      rest = ['='] ∧ bytes = partialGroup [x, y] := by
  rw [scanStrict]
  cases rest with
  | nil => simp [scanStrict]
  | cons c rest =>
    by_cases hc : c = '='
    · cases rest <;> simp [scanStrict, hc, eq_comm]
    · simp [scanStrict, hc]

theorem scanStrict_three_pads_eq_some_iff :
    scanStrict standardValue? [x, y, z] 0 ('=' :: rest) = some bytes ↔
      rest = [] ∧ bytes = partialGroup [x, y, z] := by
  rw [scanStrict]
  cases rest <;> simp [eq_comm]

/-! ### Whole texts -/

theorem scanStrict_of_strictText {cs : List Char} (h : StrictText cs bytes) :
    scanStrict standardValue? [] 0 cs = some bytes := by
  induction h with
  | padding count =>
    cases count with
    | zero => rfl
    | succ count =>
      rw [List.replicate_succ, scanStrict]
      simp [scanStrict_pads_eq_some_iff]
  | two ha hb =>
    rw [scanStrict_digit _ _ ha, scanStrict_digit _ _ hb]
    rfl
  | three ha hb hc =>
    rw [scanStrict_digit _ _ ha, scanStrict_digit _ _ hb, scanStrict_digit _ _ hc]
    rfl
  | group ha hb hc hd hrest ih =>
    rw [scanStrict_digit _ _ ha, scanStrict_digit _ _ hb, scanStrict_digit _ _ hc,
      scanStrict_digit _ _ hd]
    simp [extendGroup, ih]

theorem strictText_of_scanStrict {cs : List Char}
    (h : scanStrict standardValue? [] 0 cs = some bytes) : StrictText cs bytes := by
  induction hlength : cs.length using Nat.strongRecOn generalizing cs bytes with
  | _ length ih =>
    cases cs with
    | nil =>
      obtain rfl := Option.some.inj h
      exact .padding 0
    | cons a cs =>
      rcases pad_or_digit h with rfl | ⟨x, _, ha, hone, rfl⟩
      · -- Padding in front of everything stands for nothing.
        rw [scanStrict] at h
        obtain ⟨hcs, rfl⟩ := (scanStrict_pads_eq_some_iff (Nat.succ_ne_zero 0)).mp h
        rw [hcs]
        exact .padding (cs.length + 1)
      · obtain ⟨b, cs, rfl⟩ := exists_cons_of_held (List.cons_ne_nil _ _) hone
        rcases pad_or_digit hone with rfl | ⟨y, _, hb, htwo, rfl⟩
        · cases (scanStrict_one_pads x 0 cs).symm.trans hone
        · obtain ⟨c, cs, rfl⟩ := exists_cons_of_held (List.cons_ne_nil _ _) htwo
          rcases pad_or_digit htwo with rfl | ⟨z, _, hc, hthree, rfl⟩
          · obtain ⟨rfl, rfl⟩ := scanStrict_two_pads_eq_some_iff.mp htwo
            exact .two ha hb
          · obtain ⟨d, cs, rfl⟩ := exists_cons_of_held (List.cons_ne_nil _ _) hthree
            rcases pad_or_digit hthree with rfl | ⟨w, later, hd, hrest, rfl⟩
            · obtain ⟨rfl, rfl⟩ := scanStrict_three_pads_eq_some_iff.mp hthree
              exact .three ha hb hc
            · exact .group ha hb hc hd (ih cs.length (by simp at hlength; omega) hrest rfl)

/-- The strict reader accepts exactly texts of groups with padding that do not start with it. -/
theorem readStrict?_eq_some_iff {cs : List Char} :
    readStrict? cs = some bytes ↔ cs.head? ≠ some '=' ∧ StrictText cs bytes := by
  rw [readStrict?]
  split
  · simp_all
  · exact ⟨fun h => ⟨‹_›, strictText_of_scanStrict h⟩, fun h => scanStrict_of_strictText h.2⟩

end LoginGate.Base64
