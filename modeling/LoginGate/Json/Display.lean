import LoginGate.Json.Basic
import LoginGate.Numeral.Shortest
import LoginGate.Text.Quoted

/-!
# JSON values in messages

How a message shows a value that is not what it should be: a string as it is, but between quotation
marks inside an array or an object.

## Main definitions

* `Json.display` : a value in a message.
-/

namespace LoginGate.Json

/-- A string of codes between quotation marks, the unpaired surrogates as codes. -/
def quotedCodes (codes : List Nat) : String :=
  let cs := codes.map fun n => if n.isValidChar then Char.ofNat n else 'x'
  let mark := Quoted.mark cs
  String.ofList (mark :: codes.flatMap (fun n =>
    if n.isValidChar then Quoted.escapeChar mark (Char.ofNat n)
    else '\\' :: 'u' :: Quoted.hexCode 4 n) ++ [mark])

/-- Pairs with the earlier ones of a name left out, each name in its first place. -/
def uniqueNames {α : Type} (members : List (String × α)) : List (String × α) :=
  members.foldl (fun done member =>
    if done.any (·.1 = member.1) then
      done.map fun old => if old.1 = member.1 then member else old
    else done ++ [member]) []

mutual

/-- A value inside another one. -/
def displayInner : Json → String
  | .null => "None"
  | .bool b => if b then "True" else "False"
  | .int i => toString i
  | .float x => x.text
  | .str s => Quoted.text s
  | .unpaired codes => quotedCodes codes
  | .arr items => "[" ++ ", ".intercalate (displayItems items) ++ "]"
  | .obj members =>
    "\x7b" ++ ", ".intercalate ((uniqueNames (displayMembers members)).map fun (name, value) =>
      Quoted.text name ++ ": " ++ value) ++ "\x7d"

/-- The items of an array. -/
def displayItems : List Json → List String
  | [] => []
  | item :: items => displayInner item :: displayItems items

/-- The members of an object. -/
def displayMembers : List (String × Json) → List (String × String)
  | [] => []
  | (name, value) :: members => (name, displayInner value) :: displayMembers members

end

/-- A value in a message. -/
def display : Json → String
  | .str s => s
  | value => displayInner value

end LoginGate.Json
