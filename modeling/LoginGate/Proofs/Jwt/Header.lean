import LoginGate.Proofs.Json.RoundTrip
import LoginGate.Proofs.Jwt.Breakdown

/-!
# Headers that are accepted

The type in a header may be left out. Otherwise it is a string, one of three up to the case of its
letters: what a message shows of any other value is none of the three. The algorithm is a string,
one of those that the provider signs with.

## Main definitions

* `StartsForeign` : a text does not begin like an accepted type.

## Main results

* `Json.startsForeign_displayInner` : how a message begins with a value that is no string.
* `Verifier.isAcceptedType_iff` : the types that are accepted.
* `Verifier.checkHeader_eq_ok_iff` : the headers that are accepted.
-/

namespace LoginGate

/-! ### Values in messages -/

/-- A character of ASCII that no accepted type begins with, in either case. -/
def isForeign (c : Char) : Bool := c.toNat < 128 && c.toLower ≠ 'j' && c.toLower ≠ 'a'

theorem isForeign_of_isAsciiDigit {c : Char} (h : isAsciiDigit c) : isForeign c := by
  have hall : ∀ n < 128, isAsciiDigit (Char.ofNat n) → isForeign (Char.ofNat n) := by decide
  have hlt : c.toNat < 128 := by
    simp only [isAsciiDigit, Bool.and_eq_true, decide_eq_true_eq, Char.le_def] at h
    exact Nat.lt_of_le_of_lt h.2 (by decide)
  have := hall c.toNat hlt
  rw [Char.ofNat_toNat] at this
  exact this h

/-- A text does not begin like an accepted type. -/
def StartsForeign (s : String) : Prop := ∃ c cs, s.toList = c :: cs ∧ isForeign c

theorem StartsForeign.append {s : String} (h : StartsForeign s) (t : String) :
    StartsForeign (s ++ t) := by
  obtain ⟨c, cs, hs, hc⟩ := h
  exact ⟨c, cs ++ t.toList, by rw [String.toList_append, hs]; rfl, hc⟩

theorem startsForeign_ofList {c : Char} (hc : isForeign c) (cs : List Char) :
    StartsForeign (String.ofList (c :: cs)) := ⟨c, cs, String.toList_ofList, hc⟩

theorem startsForeign_toString (n : Nat) : StartsForeign (toString n) := by
  have htext : (toString n).toList = Nat.toDigits 10 n := by
    exact String.toList_ofList
  obtain ⟨c, cs, hcs⟩ := List.exists_cons_of_ne_nil (Nat.toDigits_ne_nil (n := n) (b := 10))
  refine ⟨c, cs, htext.trans hcs, isForeign_of_isAsciiDigit ?_⟩
  exact Numeral.isAsciiDigit_of_mem_toDigits (by rw [hcs]; exact List.mem_cons_self)

namespace Binary64

theorem Decimal.startsForeign_text (d : Decimal) : StartsForeign d.text := by
  obtain ⟨c, cs, hcs, hc⟩ := startsForeign_toString d.digits
  simp only [Decimal.text, hcs]
  split
  · split
    · exact StartsForeign.append (⟨'0', _, rfl, by decide⟩ : StartsForeign "0.") _
    · split
      · exact (startsForeign_ofList hc _).append _
      · rename_i hpoint _
        obtain ⟨n, hn⟩ : ∃ n, ((c :: cs).length + d.exponent : Int).toNat = n + 1 :=
          ⟨_, (Nat.succ_pred_eq_of_pos (by omega)).symm⟩
        rw [hn]
        exact startsForeign_ofList hc _
  · exact (((startsForeign_ofList hc _).append _).append _).append _

theorem startsForeign_text (x : Binary64) : StartsForeign x.text := by
  cases x with
  | nan => exact ⟨'n', _, rfl, by decide⟩
  | infinite negative =>
    cases negative with
    | false => exact ⟨'i', _, rfl, by decide⟩
    | true => exact ⟨'-', _, rfl, by decide⟩
  | finite negative m e =>
    cases negative with
    | true => exact StartsForeign.append (⟨'-', [], rfl, by decide⟩ : StartsForeign "-") _
    | false =>
      simp only [text, Bool.false_eq_true, if_false, String.empty_append]
      split
      · exact ⟨'0', _, rfl, by decide⟩
      · exact Decimal.startsForeign_text _

end Binary64

theorem Quoted.isForeign_mark (cs : List Char) : isForeign (mark cs) := by
  rw [mark]
  split <;> decide

/-- A message does not begin like an accepted type with a value that is no string. -/
theorem Json.startsForeign_displayInner (json : Json) : StartsForeign json.displayInner := by
  cases json with
  | null => exact ⟨'N', _, rfl, by decide⟩
  | bool b =>
    cases b with
    | false => exact ⟨'F', _, rfl, by decide⟩
    | true => exact ⟨'T', _, rfl, by decide⟩
  | int i =>
    rw [displayInner]
    obtain ⟨c, cs, hcs, hminus | hdigit⟩ := exists_cons_toString i
    · exact ⟨c, cs, hcs, by rw [hminus]; decide⟩
    · exact ⟨c, cs, hcs, isForeign_of_isAsciiDigit hdigit⟩
  | float x =>
    rw [displayInner]
    exact x.startsForeign_text
  | str s =>
    rw [displayInner]
    exact startsForeign_ofList (Quoted.isForeign_mark s.toList) _
  | unpaired codes =>
    rw [displayInner]
    exact startsForeign_ofList (Quoted.isForeign_mark _) _
  | arr items =>
    rw [displayInner, String.append_assoc]
    exact StartsForeign.append (⟨'[', [], rfl, by decide⟩ : StartsForeign "[") _
  | obj members =>
    rw [displayInner, String.append_assoc]
    exact StartsForeign.append (⟨'\x7b', [], rfl, by decide⟩ : StartsForeign "\x7b") _

namespace Verifier

/-- A text that does not begin like an accepted type is none in lower case either. -/
theorem not_accepted_of_startsForeign {text : String} (h : StartsForeign text) :
    String.ofList (toLowerChars text.toList) ∉ acceptedTypes := by
  obtain ⟨c, cs, htext, hc⟩ := h
  simp only [isForeign, Bool.and_eq_true, decide_eq_true_eq] at hc
  obtain ⟨⟨hascii, hj⟩, ha⟩ := hc
  have hhead : (String.ofList (toLowerChars text.toList)).toList.head? = some c.toLower := by
    rw [htext, toLowerChars, List.flatMap_cons, if_neg (by omega), toLowerSimple, if_pos hascii,
      String.toList_ofList]
    rfl
  intro hmem
  simp only [acceptedTypes, List.mem_cons, List.not_mem_nil, or_false] at hmem
  rcases hmem with hmem | hmem | hmem
  · rw [hmem] at hhead
    exact hj (Option.some.inj hhead).symm
  · rw [hmem] at hhead
    exact ha (Option.some.inj hhead).symm
  · rw [hmem] at hhead
    exact ha (Option.some.inj hhead).symm

/-- A header names an accepted type, or none. -/
def HasAcceptedType (header : Json) : Prop :=
  header.get? "typ" = none ∨ header.get? "typ" = some .null ∨
    ∃ type, header.get? "typ" = some (.str type) ∧
      String.ofList (toLowerChars type.toList) ∈ acceptedTypes

theorem isAcceptedType_iff {header : Json} : isAcceptedType header ↔ HasAcceptedType header := by
  have hforeign : ∀ value : Json,
      String.ofList (toLowerChars value.displayInner.toList) ∉ acceptedTypes :=
    fun value => not_accepted_of_startsForeign value.startsForeign_displayInner
  rw [isAcceptedType, HasAcceptedType]
  cases header.get? "typ" with
  | none => simp
  | some value =>
    cases value with
    | null => simp
    | str type => simp [Json.display]
    | _ => simp [Json.display, hforeign]

/-- A header is accepted if its type is, and if its algorithm is one of the provider's. -/
theorem checkHeader_eq_ok_iff {verifier : Verifier} {header : Json} {algorithm : String} :
    verifier.checkHeader header = .ok algorithm ↔ HasAcceptedType header ∧
      header.get? "alg" = some (.str algorithm) ∧ algorithm ∈ verifier.algorithms.toList := by
  rw [← isAcceptedType_iff, checkHeader]
  cases isAcceptedType header with
  | false => simp
  | true =>
    simp only [Bool.not_true, Bool.false_eq_true, if_false, true_and]
    cases header.get? "alg" with
    | none => simp
    | some value =>
      cases value with
      | str name =>
        simp only [NameSet.contains, List.contains_iff_mem, Option.some.injEq, Json.str.injEq]
        by_cases hname : name = algorithm
        · subst hname
          split <;> simp_all
        · split <;> simp [hname]
      | _ => simp

end Verifier

end LoginGate
