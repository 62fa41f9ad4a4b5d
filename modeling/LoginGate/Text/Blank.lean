/-!
# Blanks

White space of all scripts with the four information separators, trimming, and the split into
words.

## Main definitions

* `isBlank` : whether a character is white space.
* `trim`, `isBlankText` : on texts.
* `runsOf` : the maximal runs of the characters outside a class of separators.

## Main results

* `not_mem_nil_runsOf` : a run is never empty.
-/

namespace LoginGate

/-- White space: the Unicode property and the information separators U+001C to U+001F. -/
def isBlank (c : Char) : Bool :=
  let n := c.toNat
  (9 ≤ n && n ≤ 13) || (28 ≤ n && n ≤ 32) || n == 0x85 || n == 0xA0 || n == 0x1680 ||
    (0x2000 ≤ n && n ≤ 0x200A) || n == 0x2028 || n == 0x2029 || n == 0x202F || n == 0x205F ||
    n == 0x3000

/-- Without the blanks at the start. -/
def trimStartChars (cs : List Char) : List Char := cs.dropWhile isBlank

/-- Without the blanks at both ends. -/
def trimChars (cs : List Char) : List Char :=
  (trimStartChars (trimStartChars cs).reverse).reverse

/-- Without the blanks at both ends. -/
def trim (text : String) : String := String.ofList (trimChars text.toList)

/-- Whether a text holds nothing but blanks. -/
def isBlankText (text : String) : Bool := text.toList.all isBlank

/-- The maximal runs of characters outside the class `sep`, in order. -/
def runsOf (sep : Char → Bool) : List Char → List (List Char)
  | [] => []
  | c :: rest =>
    if sep c then runsOf sep rest
    else
      match rest with
      | [] => [[c]]
      | d :: _ =>
        if sep d then [c] :: runsOf sep rest
        else
          match runsOf sep rest with
          | [] => [[c]]
          | run :: runs => (c :: run) :: runs

theorem not_mem_nil_runsOf (sep : Char → Bool) (cs : List Char) : [] ∉ runsOf sep cs := by
  fun_induction runsOf sep cs <;> simp_all

/-- The pieces between the occurrences of `sep`: always one more than there are occurrences. -/
def splitAt (sep : Char) : List Char → List (List Char)
  | [] => [[]]
  | c :: rest =>
    if c = sep then [] :: splitAt sep rest
    else
      match splitAt sep rest with
      | [] => [[c]]
      | piece :: pieces => (c :: piece) :: pieces

theorem splitAt_ne_nil (sep : Char) (cs : List Char) : splitAt sep cs ≠ [] := by
  fun_induction splitAt sep cs <;> simp_all

end LoginGate
