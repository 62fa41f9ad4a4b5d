import LoginGate.Json.Schema

/-!
# Values that pass a reader

A reader that is put together from readers of members accepts a value exactly if each of them
accepts its member. These equations take such readers apart.

## Main results

* `Schema.Checked.seq_eq_valid_iff`, `Schema.Checked.map_eq_valid_iff` : parts of a checked value.
* `Schema.required_eq_valid_iff` : a member that has to be there.
* `Schema.withDefault_eq_valid_iff`, `Schema.optional_string_eq_valid_iff` : a member that may be
  absent.
* `Schema.list_string_eq_valid_iff`, `Schema.oneOf_eq_valid_iff` : lists of texts, named values.
* `Schema.document_eq_valid_iff` : documents by their JSON values.
-/

namespace LoginGate.Schema

variable {α β : Type}

namespace Checked

theorem map_eq_valid_iff {f : α → β} {checked : Checked α} {b : β} :
    f <$> checked = .valid b ↔ ∃ a, checked = .valid a ∧ f a = b := by
  change checked.map f = .valid b ↔ _
  cases checked <;> simp [map]

theorem seq_eq_valid_iff {f : Checked (α → β)} {checked : Checked α} {b : β} :
    f <*> checked = .valid b ↔ ∃ g a, f = .valid g ∧ checked = .valid a ∧ g a = b := by
  change f.ap checked = .valid b ↔ _
  cases f <;> cases checked <;> simp [ap]

theorem within_eq_valid_iff {step : Step} {checked : Checked α} {a : α} :
    checked.within step = .valid a ↔ checked = .valid a := by
  cases checked <;> simp [within]

end Checked

theorem string_eq_valid_iff {json : Json} {text : String} :
    string json = .valid text ↔ json = .str text := by
  cases json <;> simp [string, Checked.fail]

/-- A member that has to be there is there, and its reader accepts it. -/
theorem required_eq_valid_iff {name : String} {reader : Reader α} {json : Json} {a : α} :
    required name reader json = .valid a ↔
      ∃ member, json.get? name = some member ∧ reader member = .valid a := by
  rw [required]
  cases json.get? name with
  | none => simp
  | some member => simp [Checked.within_eq_valid_iff]

/-- A member with a default is absent, or its reader accepts it. -/
theorem withDefault_eq_valid_iff {name : String} {default : α} {reader : Reader α} {json : Json}
    {a : α} : withDefault name default reader json = .valid a ↔
      (json.get? name = none ∧ a = default) ∨
        ∃ member, json.get? name = some member ∧ reader member = .valid a := by
  rw [withDefault]
  cases json.get? name with
  | none => simp [eq_comm]
  | some member => simp [Checked.within_eq_valid_iff]

theorem nullable_eq_valid_iff {reader : Reader α} {json : Json} {found : Option α} :
    nullable reader json = .valid found ↔
      (json = .null ∧ found = none) ∨
        (json ≠ .null ∧ ∃ a, reader json = .valid a ∧ some a = found) := by
  have hmap (json : Json) : (reader json).map some = .valid found ↔
      ∃ a, reader json = .valid a ∧ some a = found := Checked.map_eq_valid_iff
  cases json with
  | null => simp [nullable, eq_comm]
  | _ => simp [nullable, hmap]

/-- An optional text is absent or null, or it is a string. -/
theorem optional_string_eq_valid_iff {name : String} {json : Json} {text : Option String} :
    optional name string json = .valid text ↔
      match text with
      | none => json.get? name = none ∨ json.get? name = some .null
      | some text => json.get? name = some (.str text) := by
  rw [optional, withDefault_eq_valid_iff]
  cases text with
  | none => simp [nullable_eq_valid_iff]
  | some text =>
    simp only [nullable_eq_valid_iff, string_eq_valid_iff, reduceCtorEq, and_false, false_or,
      Option.some.injEq]
    constructor
    · rintro ⟨member, hmember, -, _, rfl, rfl⟩
      exact hmember
    · intro h
      exact ⟨_, h, nofun, text, rfl, rfl⟩

theorem itemsFrom_string_eq_valid_iff {index : Nat} {items : List Json} {texts : List String} :
    itemsFrom string index items = .valid texts ↔ items = texts.map .str := by
  induction items generalizing index texts with
  | nil => simp [itemsFrom, eq_comm]
  | cons item items ih =>
    refine Checked.seq_eq_valid_iff.trans ?_
    constructor
    · rintro ⟨_, rest, hitem, hrest, rfl⟩
      obtain ⟨text, htext, rfl⟩ := Checked.map_eq_valid_iff.mp hitem
      rw [Checked.within_eq_valid_iff, string_eq_valid_iff] at htext
      rw [htext, ih.mp hrest, List.map_cons]
    · intro h
      cases texts with
      | nil => cases h
      | cons text texts =>
        obtain ⟨rfl, rfl⟩ := List.cons.inj h
        exact ⟨_, texts, rfl, ih.mpr rfl, rfl⟩

/-- A list of texts. -/
theorem list_string_eq_valid_iff {json : Json} {texts : List String} :
    list string json = .valid texts ↔ json = .arr (texts.map .str) := by
  cases json <;> simp [list, Checked.fail, itemsFrom_string_eq_valid_iff]

theorem oneOf_eq_valid_iff {named : List (String × α)} {json : Json} {a : α} :
    oneOf named json = .valid a ↔ ∃ name, json = .str name ∧ named.lookup name = some a := by
  cases json with
  | str name => cases h : named.lookup name <;> simp [oneOf, Checked.fail, h]
  | _ => simp [oneOf, Checked.fail]

theorem object_eq_valid_iff {members : Reader α} {json : Json} {a : α} :
    object members json = .valid a ↔ (∃ fields, json = .obj fields) ∧ members json = .valid a := by
  cases json <;> simp [object, Checked.fail]

theorem document_eq_valid_iff {reader : Reader α} {bytes : Bytes} {a : α} :
    document reader bytes = .valid a ↔
      ∃ json, jsonOf? bytes = some json ∧ reader json = .valid a := by
  rw [document]
  cases jsonOf? bytes <;> simp [Checked.fail]

end LoginGate.Schema
