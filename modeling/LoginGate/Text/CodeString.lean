/-!
# Strings of code points

A document may hold a string with an unpaired surrogate.  Such a string is no text and cannot be
written down again, but it can be handed on.

## Main definitions

* `CodeString` : a string of code points.
* `CodeString.text?` : the text that it is.
* `CodeString.shown` : a text in its place.
-/

namespace LoginGate

/-- A string of code points. -/
inductive CodeString where
  | text (text : String)
  /-- One with an unpaired surrogate. -/
  | unpaired (codes : List Nat)
  deriving DecidableEq, Repr

namespace CodeString

/-- The text that a string is. -/
def text? : CodeString → Option String
  | .text s => some s
  | .unpaired _ => none

/-- A text in the place of a string: U+FFFD stands for every unpaired surrogate. -/
def shown : CodeString → String
  | .text s => s
  | .unpaired codes =>
    String.ofList (codes.map fun n => if n.isValidChar then Char.ofNat n else '\uFFFD')

end CodeString

end LoginGate
