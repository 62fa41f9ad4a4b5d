import LoginGate.Text.Blank
import LoginGate.Text.Digit
import LoginGate.Text.LetterCase
import LoginGate.Text.WordChar

/-!
# Patterns

The syntax of regular expressions, and the tests of a single character.

## Main definitions

* `Pattern.Flags` : what changes the meaning of a pattern or of a part of it.
* `Pattern.Class`, `Pattern.SetItem` : classes and sets of characters.
* `Pattern.Node` : a pattern.
* `Pattern.Node.width` : how many characters a match can have.
-/

namespace LoginGate.Pattern

/-- What changes the meaning of a pattern. -/
structure Flags where
  /-- Letters match in either case. -/
  ignoreCase : Bool := false
  /-- Line ends count as ends of the text. -/
  multiline : Bool := false
  /-- The point matches a line end too. -/
  dotAll : Bool := false
  /-- Blanks and comments are no part of the pattern. -/
  verbose : Bool := false
  /-- Classes and cases know ASCII only. -/
  ascii : Bool := false
  /-- Classes and cases know all scripts, which they do anyway. -/
  unicode : Bool := false
  /-- Repetitions are refused. -/
  template : Bool := false
  deriving DecidableEq, Repr

/-- The flags that one of two has. -/
def Flags.union (f g : Flags) : Flags :=
  ⟨f.ignoreCase || g.ignoreCase, f.multiline || g.multiline, f.dotAll || g.dotAll,
    f.verbose || g.verbose, f.ascii || g.ascii, f.unicode || g.unicode, f.template || g.template⟩

/-- The flags that both of two have. -/
def Flags.inter (f g : Flags) : Flags :=
  ⟨f.ignoreCase && g.ignoreCase, f.multiline && g.multiline, f.dotAll && g.dotAll,
    f.verbose && g.verbose, f.ascii && g.ascii, f.unicode && g.unicode, f.template && g.template⟩

/-- The flags of the first that the second does not have. -/
def Flags.without (f g : Flags) : Flags :=
  ⟨f.ignoreCase && !g.ignoreCase, f.multiline && !g.multiline, f.dotAll && !g.dotAll,
    f.verbose && !g.verbose, f.ascii && !g.ascii, f.unicode && !g.unicode,
    f.template && !g.template⟩

/-- The flags that hold inside a group which turns some on and some off.  Choosing ASCII or all
scripts takes the place of an earlier choice. -/
def Flags.inside (f on off : Flags) : Flags :=
  let f := if on.ascii || on.unicode then { f with ascii := false, unicode := false } else f
  (f.union on).without off

/-- Classes of characters. -/
inductive Class where
  | digit
  | blank
  | word
  deriving DecidableEq, Repr

/-- Whether a character belongs to a class. -/
def Class.contains (ascii : Bool) : Class → Char → Bool
  | .digit, c => if ascii then isAsciiDigit c else isDecimalDigit c
  | .blank, c => if ascii then c = ' ' || (9 ≤ c.toNat && c.toNat ≤ 13) else isBlank c
  | .word, c => if ascii then c.isAlphanum || c = '_' else isWordChar c

/-- An entry of a set of characters. -/
inductive SetItem where
  | char (code : Nat)
  | range (first last : Nat)
  | class (kind : Class) (negated : Bool)
  deriving DecidableEq, Repr

/-- Whether a character is the letter of a code point. -/
def matchesCode (flags : Flags) (code : Nat) (c : Char) : Bool :=
  if !flags.ignoreCase then c.toNat == code
  else if flags.ascii then LetterCase.sameAscii c.toNat code
  else LetterCase.same c.toNat code

/-- Whether an entry has a character. -/
def SetItem.contains (flags : Flags) : SetItem → Char → Bool
  | .char code, c => matchesCode flags code c
  | .range first last, c =>
    if !flags.ignoreCase then first ≤ c.toNat && c.toNat ≤ last
    else if flags.ascii then LetterCase.sameInRangeAscii first last c.toNat
    else LetterCase.sameInRange first last c.toNat
  | .class kind negated, c => kind.contains flags.ascii c != negated

/-- Places between characters. -/
inductive Anchor where
  /-- The start of the text, or of a line. -/
  | lineStart
  /-- The end of the text, or before a line end. -/
  | lineEnd
  | textStart
  | textEnd
  | wordBoundary
  | noWordBoundary
  deriving DecidableEq, Repr

/-- How a repetition chooses its number. -/
inductive Greed where
  /-- As many as possible. -/
  | greedy
  /-- As few as possible. -/
  | reluctant
  /-- As many as possible, without going back. -/
  | possessive
  deriving DecidableEq, Repr

/-- A pattern. -/
inductive Node where
  | empty
  | char (code : Nat)
  /-- Any character, a line end only by flag. -/
  | any
  | set (negated : Bool) (items : List SetItem)
  | anchor (kind : Anchor)
  | seq (first second : Node)
  | alt (first second : Node)
  /-- A group, captured under an index or not, with flags turned on and off inside. -/
  | group (index : Option Nat) (on off : Flags) (body : Node)
  /-- From `least` to `most` repetitions. -/
  | repeated (greed : Greed) (least : Nat) (most : Option Nat) (body : Node)
  /-- What a group has captured, of which the width is known. -/
  | backref (index : Nat) (width : Nat × Nat)
  /-- A look at what follows, or at what stands before. -/
  | look (ahead negated : Bool) (body : Node)
  /-- One of two, by whether a group has captured. -/
  | conditional (index : Nat) (yes no : Node)
  /-- The first match of the body, and no other. -/
  | atomic (body : Node)
  deriving DecidableEq, Repr

/-- The greatest width that is told apart. -/
def maxWidth : Nat := 0x10000000000000000

/-- The least and the greatest number of characters of a match. -/
def Node.width : Node → Nat × Nat
  | .empty | .anchor _ | .look .. => (0, 0)
  | .char _ | .any | .set .. => (1, 1)
  | .seq a b => (min (a.width.1 + b.width.1) maxWidth, min (a.width.2 + b.width.2) maxWidth)
  | .alt a b => (min a.width.1 b.width.1, max a.width.2 b.width.2)
  | .group _ _ _ body | .atomic body => body.width
  | .repeated _ least most body =>
    (min (body.width.1 * least) maxWidth,
      match most with
      | some most => min (body.width.2 * most) maxWidth
      | none => if body.width.2 = 0 then 0 else maxWidth)
  | .backref _ width => width
  | .conditional _ yes no => (min yes.width.1 no.width.1, max yes.width.2 no.width.2)

end LoginGate.Pattern
