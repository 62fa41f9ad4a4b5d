import LoginGate.Numeral.Binary64
import LoginGate.Text.CodeString

/-!
# JSON values

## Main definitions

* `Json` : a value.  Members of an object keep their order and may repeat a name; the last one of a
  name counts.
* `Json.get?` : the member of a name.
-/

namespace LoginGate

/-- A JSON value. -/
inductive Json where
  | null
  | bool (value : Bool)
  /-- A number written without fraction and exponent. -/
  | int (value : Int)
  /-- A number written with fraction or exponent, or one that is not finite. -/
  | float (value : Binary64)
  | str (value : String)
  /-- A string with an unpaired surrogate, which is no text: its code points. -/
  | unpaired (codes : List Nat)
  | arr (items : List Json)
  | obj (members : List (String × Json))
  deriving Repr, Inhabited

namespace Json

/-- The last of the pairs with a given name. -/
def lookupLast? (name : String) : List (String × Json) → Option Json
  | [] => none
  | (key, value) :: rest =>
    match lookupLast? name rest with
    | some later => some later
    | none => if key = name then some value else none

/-- The member of an object by its name; nothing of any other value. -/
def get? (json : Json) (name : String) : Option Json :=
  match json with
  | .obj members => lookupLast? name members
  | _ => none

/-- The text of a string value. -/
def str? : Json → Option String
  | .str s => some s
  | _ => none

/-- The string that a value is, a text or not. -/
def codeString? : Json → Option CodeString
  | .str s => some (.text s)
  | .unpaired codes => some (.unpaired codes)
  | _ => none

/-- The items, if all of them are strings. -/
def strings? : Json → Option (List String)
  | .arr items => items.mapM str?
  | _ => none

/-- Whether a value is empty or zero: null, false, zero, and the empty string, array and object. -/
def isVoid : Json → Bool
  | .null => true
  | .bool b => !b
  | .int i => i == 0
  | .float (.finite _ m _) => m == 0
  | .float _ => false
  | .str s => s.isEmpty
  | .unpaired codes => codes.isEmpty
  | .arr items => items.isEmpty
  | .obj members => members.isEmpty

end Json

end LoginGate
