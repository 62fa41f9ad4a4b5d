import LoginGate.Pattern.Basic
import LoginGate.Text.Quoted

/-!
# What is wrong with a pattern

## Main definitions

* `Pattern.Cause` : the faults of a pattern's text.
* `Pattern.Fault` : a fault with its place.
* `Pattern.Reject` : why a pattern is refused.
* `Pattern.Fault.message` : the fault in words.
-/

namespace LoginGate.Pattern

/-- The faults of a pattern's text. -/
inductive Cause where
  | danglingEscape
  | badEscape (text : String)
  | incompleteEscape (text : String)
  /-- Something that had to follow. -/
  | missing (what : String)
  | unterminatedName (terminator : Char)
  | undefinedCharacter (name : String)
  | octalTooLarge (text : String)
  | invalidReference (group : Nat)
  | openReference
  | lookbehindReference
  | unterminatedSet
  | badRange (first last : String)
  | reversedRepeat
  | nothingToRepeat
  | multipleRepeat
  | unexpectedEnd
  | unknownExtension (text : String)
  | unterminatedComment
  | unterminatedGroup
  | thirdBranch
  | badGroupNumber
  | badGroupName (name : String)
  | unknownGroupName (name : String)
  | redefinedGroupName (name : String) (group earlier : Nat)
  | lateFlags
  | localeFlag
  | clashingFlags
  | unknownFlag
  | globalFlagOn
  | globalFlagOff
  | scriptFlagOff
  | flagOnAndOff
  | unbalancedParenthesis
  | variableLookbehind
  | farLookbehind
  | templateRepeat (greed : Greed)
  deriving DecidableEq, Repr

/-- A fault in words. -/
def Cause.message : Cause → String
  | .danglingEscape => "bad escape (end of pattern)"
  | .badEscape text => "bad escape " ++ text
  | .incompleteEscape text => "incomplete escape " ++ text
  | .missing what => "missing " ++ what
  | .unterminatedName terminator => "missing " ++ terminator.toString ++ ", unterminated name"
  | .undefinedCharacter name => "undefined character name " ++ Quoted.text name
  | .octalTooLarge text => "octal escape value " ++ text ++ " outside of range 0-0o377"
  | .invalidReference group => "invalid group reference " ++ toString group
  | .openReference => "cannot refer to an open group"
  | .lookbehindReference => "cannot refer to group defined in the same lookbehind subpattern"
  | .unterminatedSet => "unterminated character set"
  | .badRange first last => "bad character range " ++ first ++ "-" ++ last
  | .reversedRepeat => "min repeat greater than max repeat"
  | .nothingToRepeat => "nothing to repeat"
  | .multipleRepeat => "multiple repeat"
  | .unexpectedEnd => "unexpected end of pattern"
  | .unknownExtension text => "unknown extension ?" ++ text
  | .unterminatedComment => "missing ), unterminated comment"
  | .unterminatedGroup => "missing ), unterminated subpattern"
  | .thirdBranch => "conditional backref with more than two branches"
  | .badGroupNumber => "bad group number"
  | .badGroupName name => "bad character in group name " ++ Quoted.text name
  | .unknownGroupName name => "unknown group name " ++ Quoted.text name
  | .redefinedGroupName name group earlier =>
    "redefinition of group name " ++ Quoted.text name ++ " as group " ++ toString group ++
      "; was group " ++ toString earlier
  | .lateFlags => "global flags not at the start of the expression"
  | .localeFlag => "bad inline flags: cannot use 'L' flag with a str pattern"
  | .clashingFlags => "bad inline flags: flags 'a', 'u' and 'L' are incompatible"
  | .unknownFlag => "unknown flag"
  | .globalFlagOn => "bad inline flags: cannot turn on global flag"
  | .globalFlagOff => "bad inline flags: cannot turn off global flag"
  | .scriptFlagOff => "bad inline flags: cannot turn off flags 'a', 'u' and 'L'"
  | .flagOnAndOff => "bad inline flags: flag turned on and off"
  | .unbalancedParenthesis => "unbalanced parenthesis"
  | .variableLookbehind => "look-behind requires fixed-width pattern"
  | .farLookbehind => "looks too much behind"
  | .templateRepeat .greedy => "internal: unsupported template operator MAX_REPEAT"
  | .templateRepeat .reluctant => "internal: unsupported template operator MIN_REPEAT"
  | .templateRepeat .possessive => "internal: unsupported template operator POSSESSIVE_REPEAT"

/-- A fault and the number of characters before it, if it lies at one place. -/
structure Fault where
  cause : Cause
  position : Option Nat
  deriving DecidableEq, Repr

/-- The number of the line and the column of a place, both counted from one. -/
def lineAndColumn (pattern : List Char) (position : Nat) : Nat × Nat :=
  let before := pattern.take position
  (before.count '\n' + 1, (before.reverse.takeWhile (· ≠ '\n')).length + 1)

/-- A fault in words, with its place; with line and column if the pattern has several lines. -/
def Fault.message (pattern : String) (fault : Fault) : String :=
  match fault.position with
  | none => fault.cause.message
  | some position =>
    let place := fault.cause.message ++ " at position " ++ toString position
    if pattern.toList.contains '\n' then
      let (line, column) := lineAndColumn pattern.toList position
      place ++ " (line " ++ toString line ++ ", column " ++ toString column ++ ")"
    else place

/-- Why a pattern is refused. -/
inductive Reject where
  /-- Its text has a fault. -/
  | faulty (fault : Fault)
  /-- A number of repetitions is out of range. -/
  | repeatOutOfRange
  /-- Both ASCII and all scripts have been chosen for the whole pattern. -/
  | scriptFlagsClash
  deriving DecidableEq, Repr

end LoginGate.Pattern
