/-!
# Texts by their names

## Main definitions

* `NameMap` : names with values, in the order in which the names came, each once.
* `NameMap.get?`, `NameMap.insert`, `NameMap.erase` : on one name.
* `NameMap.ofPairs`, `NameMap.insertAll` : on many.

## Main results

* `NameMap.get?_insert`, `NameMap.get?_erase` : what is found after a change.
-/

namespace LoginGate

/-- Names with values, in the order in which the names came. -/
abbrev NameMap := List (String × String)

namespace NameMap

/-- The value of a name. -/
def get? (map : NameMap) (name : String) : Option String := map.lookup name

/-- The value of a name, or a default. -/
def getD (map : NameMap) (name default : String) : String := (map.get? name).getD default

/-- Forgets a name. -/
def erase (map : NameMap) (name : String) : NameMap := map.filter (·.1 ≠ name)

/-- Gives a name a value: in its place if it is there, or else at the end. -/
def insert : NameMap → (name value : String) → NameMap
  | [], name, value => [(name, value)]
  | (key, old) :: map, name, value =>
    if key = name then (key, value) :: map else (key, old) :: insert map name value

/-- Gives several names values, one after the other. -/
def insertAll (map : NameMap) (pairs : List (String × String)) : NameMap :=
  pairs.foldl (fun map pair => map.insert pair.1 pair.2) map

/-- The names of pairs, each with its last value. -/
def ofPairs (pairs : List (String × String)) : NameMap := insertAll [] pairs

theorem get?_cons (key value name : String) (map : NameMap) :
    get? ((key, value) :: map) name = if name = key then some value else get? map name := by
  by_cases h : name = key
  · subst h; simp [get?]
  · have : (name == key) = false := by simpa using h
    simp [get?, List.lookup_cons, this, h]

theorem get?_insert (map : NameMap) (name value other : String) :
    (map.insert name value).get? other = if other = name then some value else map.get? other := by
  induction map with
  | nil => exact get?_cons name value other []
  | cons pair map ih =>
    obtain ⟨key, old⟩ := pair
    simp only [insert]
    split
    · rename_i h; subst h
      simp only [get?_cons]; split <;> rfl
    · rename_i h
      simp only [get?_cons, ih]
      by_cases hk : other = key
      · have : other ≠ name := fun hn => h (hk ▸ hn)
        simp [hk, h]
      · simp [hk]

theorem get?_erase (map : NameMap) (name other : String) :
    (map.erase name).get? other = if other = name then none else map.get? other := by
  induction map with
  | nil => simp [erase, get?]
  | cons pair map ih =>
    obtain ⟨key, value⟩ := pair
    by_cases h : key = name
    · subst h
      have : erase ((key, value) :: map) key = erase map key := by simp [erase]
      rw [this, ih, get?_cons]; split <;> rfl
    · have : erase ((key, value) :: map) name = (key, value) :: erase map name := by
        simp [erase, h]
      rw [this, get?_cons, get?_cons, ih]
      by_cases hk : other = key
      · subst hk; simp [h]
      · simp [hk]

end NameMap

end LoginGate
