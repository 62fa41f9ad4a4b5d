import LoginGate.Json.Parser
import LoginGate.Text.Utf8

/-!
# JSON of a known shape

Readers from JSON values to domain types.  A reader reports every fault of the value and not only
the first, in the order in which the fields are declared.

## Main definitions

* `Schema.Issue` : a fault and where it lies.
* `Schema.Checked` : a value, or its issues; combining two keeps the issues of both.
* `Schema.Reader` : from JSON to a checked value.
* `Schema.document` : reads the bytes of a whole document.
-/

namespace LoginGate.Schema

/-- A step towards a part of a value. -/
inductive Step where
  /-- Into a member. -/
  | field (name : String)
  /-- Into an item. -/
  | item (index : Nat)
  deriving DecidableEq, Repr

/-- The kinds of faults. -/
inductive Fault where
  | notJson
  | missing
  | notObject
  | notString
  | notList
  | notSet
  | unknownName
  | notInteger
  | unreadableInteger
  | integerTooLong
  | fractionalInteger
  | notFinite
  | notDate
  | unreadableDate
  | dateOutOfRange
  | notAddress
  | unreadableAddress
  | addressScheme
  | addressTooLong
  deriving DecidableEq, Repr

/-- The name of a kind of fault in reports. -/
def Fault.name : Fault → String
  | .notJson => "json_invalid"
  | .missing => "missing"
  | .notObject => "model_type"
  | .notString => "string_type"
  | .notList => "list_type"
  | .notSet => "frozen_set_type"
  | .unknownName => "enum"
  | .notInteger => "int_type"
  | .unreadableInteger => "int_parsing"
  | .integerTooLong => "int_parsing_size"
  | .fractionalInteger => "int_from_float"
  | .notFinite => "finite_number"
  | .notDate => "datetime_type"
  | .unreadableDate => "datetime_from_date_parsing"
  | .dateOutOfRange => "datetime_parsing"
  | .notAddress => "url_type"
  | .unreadableAddress => "url_parsing"
  | .addressScheme => "url_scheme"
  | .addressTooLong => "url_too_long"

/-- A fault and the way to where it lies. -/
structure Issue where
  path : List Step
  fault : Fault
  deriving DecidableEq, Repr

/-- A value, or what is wrong with it. -/
inductive Checked (α : Type) where
  | valid (value : α)
  | invalid (issues : List Issue)

namespace Checked

variable {α β : Type}

/-- A fault of the value at hand itself. -/
def fail (fault : Fault) : Checked α := .invalid [⟨[], fault⟩]

/-- A function of the checked value. -/
def map (f : α → β) : Checked α → Checked β
  | .valid a => .valid (f a)
  | .invalid issues => .invalid issues

/-- Applies a checked function to a checked value; the issues of both are kept. -/
def ap : Checked (α → β) → Checked α → Checked β
  | .valid f, .valid a => .valid (f a)
  | .valid _, .invalid issues => .invalid issues
  | .invalid issues, .valid _ => .invalid issues
  | .invalid issues, .invalid more => .invalid (issues ++ more)

instance : Applicative Checked where
  pure := .valid
  map := map
  seq f a := ap f (a ())

/-- The same value seen from one step further out. -/
def within (step : Step) : Checked α → Checked α
  | .valid a => .valid a
  | .invalid issues => .invalid (issues.map fun issue => { issue with path := step :: issue.path })

end Checked

/-- From JSON to a checked value. -/
abbrev Reader (α : Type) := Json → Checked α

variable {α : Type}

/-! ### Values -/

/-- A string. -/
def string : Reader String
  | .str s => .valid s
  | _ => .fail .notString

/-- Null, or what `reader` reads. -/
def nullable (reader : Reader α) : Reader (Option α)
  | .null => .valid none
  | json => (reader json).map some

/-- Items one by one, counted from `index`. -/
def itemsFrom (reader : Reader α) : (index : Nat) → List Json → Checked (List α)
  | _, [] => .valid []
  | index, item :: items =>
    (((reader item).within (.item index)).map List.cons).ap (itemsFrom reader (index + 1) items)

/-- A list. -/
def list (reader : Reader α) : Reader (List α)
  | .arr items => itemsFrom reader 0 items
  | _ => .fail .notList

/-- A set, given as a list. -/
def set (reader : Reader α) : Reader (List α)
  | .arr items => itemsFrom reader 0 items
  | _ => .fail .notSet

/-- One of some named values. -/
def oneOf (named : List (String × α)) : Reader α
  | .str s =>
    match named.lookup s with
    | some value => .valid value
    | none => .fail .unknownName
  | _ => .fail .unknownName

/-! ### Whole numbers -/

/-- Blanks that may stand around a number in a string. -/
def isMargin (c : Char) : Bool := Numeral.isMargin c

/-- The digits of a whole number without leading zeros, as JSON writes it. -/
def plainInteger (cs : List Char) : Checked Int :=
  let (negative, ds) :=
    match cs with
    | '-' :: ds => (true, ds)
    | ds => (false, ds)
  if ds.isEmpty || !ds.all isAsciiDigit || (ds.head? = some '0' && ds.length ≠ 1) then
    .fail .unreadableInteger
  else if Numeral.maxDigits < ds.length then .fail .integerTooLong
  else .valid (Numeral.signed negative (Numeral.digitsValue ds))

/-- Without the zeros at the start and the underscores between them.  One zero stays if no digit
follows, but then no underscore may stand behind it.  Zeros after a minus sign are not passed
over. -/
def dropLeadingZeros (cs : List Char) : List Char :=
  if cs.head? ≠ some '0' then cs
  else
    let zeros := cs.takeWhile fun c => c = '0' || c = '_'
    let rest := cs.dropWhile fun c => c = '0' || c = '_'
    if rest.isEmpty || rest.head? = some '.' then
      if zeros.getLast? = some '_' then cs else '0' :: rest
    else rest

/-- Without a point that only zeros follow. -/
def dropZeroFraction (cs : List Char) : List Char :=
  let fraction := (cs.dropWhile (· ≠ '.')).drop 1
  if fraction.isEmpty || !fraction.all (· = '0') then cs else cs.takeWhile (· ≠ '.')

/-- Whether two underscores stand side by side. -/
def hasDoubleUnderscore : List Char → Bool
  | '_' :: '_' :: _ => true
  | _ :: rest => hasDoubleUnderscore rest
  | [] => false

/-- Without the underscores, if each of them stands alone and none at an end. -/
def dropUnderscores (cs : List Char) : List Char :=
  if cs.head? = some '_' || cs.getLast? = some '_' || hasDoubleUnderscore cs then cs
  else cs.filter (· ≠ '_')

/-- A whole number in a string: blanks around, a plus sign, leading zeros, single underscores and a
fraction of zeros are allowed. -/
def integerText (text : String) : Checked Int :=
  let cs := ((text.toList.dropWhile isMargin).reverse.dropWhile isMargin).reverse
  match plainInteger cs with
  | .invalid [⟨[], .unreadableInteger⟩] =>
    let cs :=
      match cs with
      | '+' :: rest => rest
      | _ => cs
    plainInteger (dropUnderscores (dropZeroFraction (dropLeadingZeros cs)))
  | result => result

/-- Whether a double lies strictly between the ends of the 64-bit integers. -/
def isWord (i : Int) : Bool := i.natAbs < 0x8000000000000000

/-- A whole number: written so, or as a float without fraction, a truth value, or a string. -/
def integer : Reader Int
  | .int i => .valid i
  | .bool b => .valid (if b then 1 else 0)
  | .float x =>
    if !x.isFinite then .fail .notFinite
    else
      match x.toInt? with
      | none => .fail .fractionalInteger
      | some i => if isWord i then .valid i else .fail .integerTooLong
  | .str s => integerText s
  | _ => .fail .notInteger

/-! ### Objects and documents -/

/-- A member that has to be there. -/
def required (name : String) (reader : Reader α) (json : Json) : Checked α :=
  match json.get? name with
  | some value => (reader value).within (.field name)
  | none => .invalid [⟨[.field name], .missing⟩]

/-- A member with a value for when it is absent. -/
def withDefault (name : String) (default : α) (reader : Reader α) (json : Json) : Checked α :=
  match json.get? name with
  | some value => (reader value).within (.field name)
  | none => .valid default

/-- A member that may be absent or null. -/
def optional (name : String) (reader : Reader α) (json : Json) : Checked (Option α) :=
  withDefault name none (nullable reader) json

/-- An object, read by its members. -/
def object (members : Reader α) : Reader α
  | .obj fields => members (.obj fields)
  | _ => .fail .notObject

/-- How many of some names an object has. -/
def countFields (names : List String) (json : Json) : Nat :=
  names.countP fun name => (json.get? name).isSome

/-- Documents nest at most this deep, and their strings are texts. -/
def dialect : Json.Dialect := ⟨200, false⟩

/-- The JSON value of a document. -/
def jsonOf? (bytes : Bytes) : Option Json := do
  let text ← Utf8.decode? bytes
  Json.parse? dialect text

/-- Reads the bytes of a whole document. -/
def document (reader : Reader α) (bytes : Bytes) : Checked α :=
  match jsonOf? bytes with
  | some json => reader json
  | none => .fail .notJson

end LoginGate.Schema
