import LoginGate.Pattern.Basic

/-!
# Matching patterns

A matcher takes what is to happen behind its part of the pattern as a continuation, and tries its
choices in order until the continuation succeeds.  It recurses on the pattern; only repetitions
count steps, and since a repetition that does not move on is not tried again, the length of the text
bounds them.

## Main definitions

* `Pattern.Cursor` : a place in a text, with what groups have captured.
* `Pattern.Node.run` : the matcher.
* `Pattern.Node.matchesAll` : whether a pattern matches a whole text.
-/

namespace LoginGate.Pattern

/-- A place in a text. -/
structure Cursor where
  /-- The characters before the place, the nearest first. -/
  before : List Char
  /-- The characters after it. -/
  rest : List Char
  /-- What groups have captured, the latest first. -/
  captured : List (Nat × List Char)

/-- What is to happen at a place. -/
abbrev Next := Cursor → Option Cursor

/-- A matcher with its continuation. -/
abbrev Run := Cursor → Next → Option Cursor

/-- Takes one character that passes a test. -/
def takeChar (test : Char → Bool) : Run := fun cursor next =>
  match cursor.rest with
  | [] => none
  | c :: rest =>
    if test c then next { cursor with before := c :: cursor.before, rest := rest } else none

/-- Whether a word and a non-word character meet at a place of a text that is not empty. -/
def Cursor.atBoundary (cursor : Cursor) (ascii : Bool) : Bool :=
  cursor.before.head?.any (Class.word.contains ascii) !=
    cursor.rest.head?.any (Class.word.contains ascii)

/-- Whether a place is as an anchor wants it. -/
def Anchor.holds (flags : Flags) (cursor : Cursor) : Anchor → Bool
  | .lineStart => cursor.before.isEmpty || (flags.multiline && cursor.before.head? == some '\n')
  | .lineEnd => cursor.rest.isEmpty || cursor.rest == ['\n'] ||
      (flags.multiline && cursor.rest.head? == some '\n')
  | .textStart => cursor.before.isEmpty
  | .textEnd => cursor.rest.isEmpty
  | .wordBoundary => !(cursor.before.isEmpty && cursor.rest.isEmpty) &&
      cursor.atBoundary flags.ascii
  | .noWordBoundary => !(cursor.before.isEmpty && cursor.rest.isEmpty) &&
      !cursor.atBoundary flags.ascii

/-- Takes the characters of a captured text, in either case by flag. -/
def takeText (flags : Flags) : List Char → Run
  | [], cursor, next => next cursor
  | c :: cs, cursor, next =>
    let same (d : Char) : Bool :=
      if !flags.ignoreCase then c == d
      else if flags.ascii then LetterCase.sameAscii c.toNat d.toNat
      else LetterCase.lower c.toNat == LetterCase.lower d.toNat
    takeChar same cursor fun cursor => takeText flags cs cursor next

/-! ### Repetitions -/

/-- Whether one more repetition after `count` is allowed and can move on: there may be more, and the
last one has not stayed where it was. -/
def mayRepeat (most : Option Nat) (count : Nat) (last : Option Nat) (cursor : Cursor) : Bool :=
  most.all (count < ·) && last != some cursor.rest.length

/-- As many repetitions as possible, then as few fewer as the continuation asks for.  `last` is the
length that was left before the latest repetition. -/
def runGreedy (body : Run) (least : Nat) (most : Option Nat) :
    (steps count : Nat) → (last : Option Nat) → Run
  | 0, _, _, _, _ => none
  | steps + 1, count, last, cursor, next =>
    if count < least then
      body cursor fun cursor => runGreedy body least most steps (count + 1) last cursor next
    else
      let more :=
        if mayRepeat most count last cursor then
          body cursor fun after =>
            runGreedy body least most steps (count + 1) (some cursor.rest.length) after next
        else none
      match more with
      | some found => some found
      | none => next cursor

/-- As few repetitions as possible, then as many more as the continuation asks for. -/
def runReluctant (body : Run) (least : Nat) (most : Option Nat) :
    (steps count : Nat) → (last : Option Nat) → Run
  | 0, _, _, _, _ => none
  | steps + 1, count, last, cursor, next =>
    if count < least then
      body cursor fun cursor => runReluctant body least most steps (count + 1) last cursor next
    else
      match next cursor with
      | some found => some found
      | none =>
        if mayRepeat most count last cursor then
          body cursor fun after =>
            runReluctant body least most steps (count + 1) (some cursor.rest.length) after next
        else none

/-- As many repetitions as possible, each the first match of the body and none given back. -/
def runPossessive (body : Run) (least : Nat) (most : Option Nat) :
    (steps count : Nat) → (last : Option Nat) → Run
  | 0, _, _, _, _ => none
  | steps + 1, count, last, cursor, next =>
    if count < least then
      match body cursor some with
      | some after => runPossessive body least most steps (count + 1) last after next
      | none => none
    else if mayRepeat most count last cursor then
      match body cursor some with
      | some after =>
        runPossessive body least most steps (count + 1) (some cursor.rest.length) after next
      | none => next cursor
    else next cursor

/-- Repetitions of a kind. -/
def runRepeated (greed : Greed) (body : Run) (least : Nat) (most : Option Nat) : Run :=
  fun cursor next =>
    let steps := least + cursor.rest.length + 3
    match greed with
    | .greedy => runGreedy body least most steps 0 none cursor next
    | .reluctant => runReluctant body least most steps 0 none cursor next
    | .possessive => runPossessive body least most steps 0 none cursor next

/-! ### The matcher -/

/-- The place some characters before, if there are so many. -/
def Cursor.back? (cursor : Cursor) (count : Nat) : Option Cursor :=
  if count ≤ cursor.before.length then
    some { cursor with
      before := cursor.before.drop count
      rest := (cursor.before.take count).reverse ++ cursor.rest }
  else none

/-- Matches a pattern at a place and goes on with the continuation. -/
def Node.run (flags : Flags) : Node → Run
  | .empty, cursor, next => next cursor
  | .char code, cursor, next => takeChar (matchesCode flags code) cursor next
  | .any, cursor, next => takeChar (fun c => flags.dotAll || c != '\n') cursor next
  | .set negated items, cursor, next =>
    takeChar (fun c => (items.any fun item => item.contains flags c) != negated) cursor next
  | .anchor kind, cursor, next => if kind.holds flags cursor then next cursor else none
  | .seq a b, cursor, next => a.run flags cursor fun cursor => b.run flags cursor next
  | .alt a b, cursor, next =>
    match a.run flags cursor next with
    | some found => some found
    | none => b.run flags cursor next
  | .group index on off body, cursor, next =>
    body.run (flags.inside on off) cursor fun after =>
      match index with
      | none => next after
      | some index =>
        let text := cursor.rest.take (cursor.rest.length - after.rest.length)
        next { after with captured := (index, text) :: after.captured }
  | .repeated greed least most body, cursor, next =>
    runRepeated greed (fun cursor next => body.run flags cursor next) least most cursor next
  | .backref index _, cursor, next =>
    match cursor.captured.lookup index with
    | some text => takeText flags text cursor next
    | none => none
  | .look ahead negated body, cursor, next =>
    let start := if ahead then some cursor else cursor.back? body.width.1
    match start.bind fun start => body.run flags start some with
    | some found => if negated then none else next { cursor with captured := found.captured }
    | none => if negated then next cursor else none
  | .conditional index yes no, cursor, next =>
    if (cursor.captured.lookup index).isSome then yes.run flags cursor next
    else no.run flags cursor next
  | .atomic body, cursor, next =>
    match body.run flags cursor some with
    | some after => next after
    | none => none

/-- Whether a pattern matches a whole text. -/
def Node.matchesAll (flags : Flags) (node : Node) (text : List Char) : Bool :=
  (node.run flags ⟨[], text, []⟩ fun cursor =>
    if cursor.rest.isEmpty then some cursor else none).isSome

end LoginGate.Pattern
