import LoginGate.Jwt.Verifier

/-!
# Users whose claims are texts

Claims may hold strings with an unpaired surrogate, which are no texts and cannot be kept. Where
they hold none, what they tell of a user is an identity.

## Main definitions

* `Json.isTextual` : all strings in a value are texts.
* `Claims.identity` : the identity of a user whose claims are texts.

## Main results

* `Claims.profile_of_isTextual` : such claims tell of that identity.
* `Profile.ofToken_of_isTextual` : so does a token with such claims.
-/

namespace LoginGate

namespace Json

mutual

/-- Whether all strings in a value are texts. -/
def isTextual : Json → Bool
  | .unpaired _ => false
  | .arr items => areTextual items
  | .obj members => membersAreTextual members
  | _ => true

/-- Whether all strings in the items are texts. -/
def areTextual : List Json → Bool
  | [] => true
  | item :: items => isTextual item && areTextual items

/-- Whether all strings in the values of the members are texts. -/
def membersAreTextual : List (String × Json) → Bool
  | [] => true
  | (_, value) :: members => isTextual value && membersAreTextual members

end

theorem isTextual_of_lookupLast? {members : List (String × Json)} (h : membersAreTextual members)
    {name : String} {value : Json} (hvalue : lookupLast? name members = some value) :
    value.isTextual := by
  induction members with
  | nil => cases hvalue
  | cons member members ih =>
    obtain ⟨key, first⟩ := member
    rw [membersAreTextual, Bool.and_eq_true] at h
    rw [lookupLast?] at hvalue
    split at hvalue
    · rename_i later hlater
      cases hvalue
      exact ih h.2 hlater
    · split at hvalue
      · cases hvalue
        exact h.1
      · cases hvalue

theorem isTextual_of_get? {json : Json} (h : json.isTextual) {name : String} {value : Json}
    (hvalue : json.get? name = some value) : value.isTextual := by
  cases json with
  | obj members => exact isTextual_of_lookupLast? h hvalue
  | _ => cases hvalue

end Json

namespace Claims

/-- The identity of a user whose claims are texts. -/
def identity (claims : Json) : Identity := (profile claims).map CodeString.shown

theorem eq_text_of_codeString? {value : Json} (h : value.isTextual) {string : CodeString}
    (hstring : value.codeString? = some string) : .text string.shown = string := by
  cases value with
  | str text =>
    cases hstring
    rfl
  | unpaired codes => cases h
  | _ => cases hstring

theorem map_text_stringClaim {claims : Json} (h : claims.isTextual) (name : String) :
    ((stringClaim claims name).map CodeString.shown).map .text = stringClaim claims name := by
  cases hclaim : stringClaim claims name with
  | none => rfl
  | some string =>
    obtain ⟨value, hvalue, hstring⟩ := Option.bind_eq_some_iff.mp hclaim
    exact congrArg some (eq_text_of_codeString? (Json.isTextual_of_get? h hvalue) hstring)

theorem map_text_of_mapM {items : List Json} (h : Json.areTextual items) {strings : List CodeString}
    (hstrings : items.mapM Json.codeString? = some strings) :
    (strings.map CodeString.shown).map .text = strings := by
  induction items generalizing strings with
  | nil =>
    cases hstrings
    rfl
  | cons item items ih =>
    rw [Json.areTextual, Bool.and_eq_true] at h
    simp only [List.mapM_cons, Option.bind_eq_bind, Option.bind_eq_some_iff, Option.pure_def,
      Option.some.injEq] at hstrings
    obtain ⟨first, hfirst, rest, hrest, rfl⟩ := hstrings
    rw [List.map_cons, List.map_cons, eq_text_of_codeString? h.1 hfirst, ih h.2 hrest]

theorem map_text_listClaim {claims : Json} (h : claims.isTextual) (name : String) :
    ((listClaim claims name).map CodeString.shown).map .text = listClaim claims name := by
  rw [listClaim]
  cases hclaim : (claims.get? name).bind strings? with
  | none => rfl
  | some strings =>
    obtain ⟨value, hvalue, hstrings⟩ := Option.bind_eq_some_iff.mp hclaim
    have htextual := Json.isTextual_of_get? h hvalue
    cases value with
    | arr items => exact map_text_of_mapM htextual hstrings
    | _ => cases hstrings

/-- Claims that are texts tell of an identity. -/
theorem profile_of_isTextual {claims : Json} (h : claims.isTextual) :
    profile claims = (identity claims).map .text := by
  rw [identity, Profile.map, Profile.map, profile]
  simp only [map_text_stringClaim h, map_text_listClaim h]

end Claims

/-- A token whose claims are texts tells of an identity. -/
theorem Profile.ofToken_of_isTextual {platform : Platform} {token : String} {header claims : Json}
    (hread : Jwt.read platform token = .ok (header, claims)) (h : claims.isTextual) :
    ofToken platform token = .ok ((Claims.identity claims).map .text) := by
  rw [ofToken, hread, ← Claims.profile_of_isTextual h]

end LoginGate
