import LoginGate.Text.LowerCase

/-!
# Letters that differ only in case

Two characters are the same letter when their lower-case forms are equal or have the same
upper-case form, as the two lower-case sigmas have.

## Main definitions

* `LetterCase.classes` : lower-case letters that share their upper-case form.
* `LetterCase.same` : whether two code points are one letter.
* `LetterCase.sameInRange` : whether a range has the letter of a code point.
-/

namespace LoginGate.LetterCase

/-- The sets of lower-case letters with a common upper-case form. -/
def classes : List (List Nat) := [
  [0x69, 0x131], [0x73, 0x17F], [0xB5, 0x3BC], [0x345, 0x3B9, 0x1FBE], [0x390, 0x1FD3],
  [0x3B0, 0x1FE3], [0x3B2, 0x3D0], [0x3B5, 0x3F5], [0x3B8, 0x3D1], [0x3BA, 0x3F0], [0x3C0, 0x3D6],
  [0x3C1, 0x3F1], [0x3C2, 0x3C3], [0x3C6, 0x3D5], [0x432, 0x1C80], [0x434, 0x1C81],
  [0x43E, 0x1C82], [0x441, 0x1C83], [0x442, 0x1C84, 0x1C85], [0x44A, 0x1C86], [0x463, 0x1C87],
  [0x1C88, 0xA64B], [0x1E61, 0x1E9B], [0xFB05, 0xFB06]]

/-- The simple lower-case form of a code point. -/
def lower (code : Nat) : Nat :=
  if code.isValidChar then (toLowerSimple (Char.ofNat code)).toNat else code

/-- The lower-case letters with the same upper-case form as a lower-case letter, itself among
them. -/
def companions (code : Nat) : List Nat := (classes.find? (·.contains code)).getD [code]

/-- Whether two code points are one letter. -/
def same (a b : Nat) : Bool := (companions (lower a)).contains (lower b)

/-- The code points other than itself whose lower-case form a lower-case letter is. -/
def upperForms (code : Nat) : List Nat :=
  (LowerCase.runs.filterMap fun (first, last, step, shift) =>
    let upper := ((code : Int) - shift).toNat
    if (upper : Int) + shift = code ∧ first ≤ upper ∧ upper ≤ last ∧ (upper - first) % step = 0 then
      some upper
    else none) ++ (if code = 0x69 then [0x130] else [])

/-- Whether one of the code points from `first` to `last` is the letter of `code`. -/
def sameInRange (first last code : Nat) : Bool :=
  (companions (lower code)).any fun c =>
    (c :: upperForms c).any fun x => first ≤ x && x ≤ last

/-- The ASCII letters in lower case, all else as it is. -/
def lowerAscii (code : Nat) : Nat := if 65 ≤ code ∧ code ≤ 90 then code + 32 else code

/-- Whether two code points are one letter, where only ASCII letters have two cases. -/
def sameAscii (a b : Nat) : Bool := lowerAscii a == lowerAscii b

/-- Whether a range has the letter of a code point, where only ASCII letters have two cases. -/
def sameInRangeAscii (first last code : Nat) : Bool :=
  let c := lowerAscii code
  (first ≤ c && c ≤ last) || (97 ≤ c && c ≤ 122 && first ≤ c - 32 && c - 32 ≤ last)

end LoginGate.LetterCase
