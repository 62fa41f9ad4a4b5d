import LoginGate.Numeral.Read
import LoginGate.Pattern.Fault
import LoginGate.Pattern.Matcher

/-!
# Reading patterns

A pattern's text is first cut into tokens: single characters, and backslashes with the character
behind them.  A descent over the tokens then builds the pattern; it keeps account of the groups and
of the flags for the whole.

## Main definitions

* `Pattern.Token`, `Pattern.tokensOf` : the tokens of a text.
* `Pattern.Progress` : what has been read so far.
* `Pattern.compile` : a pattern from its text, or why there is none.
* `Pattern.Compiled.matchesAll` : whether a compiled pattern matches a whole text.
-/

namespace LoginGate.Pattern

/-! ### Tokens -/

/-- A character, or a backslash with the character behind it. -/
structure Token where
  chars : List Char
  /-- The number of characters before it. -/
  start : Nat
  deriving DecidableEq, Repr

/-- The tokens of a text whose first character is number `start`, and whether a backslash with
nothing behind it is left. -/
def tokensOf : (start : Nat) → List Char → List Token × Bool
  | _, [] => ([], false)
  | _, ['\\'] => ([], true)
  | start, '\\' :: c :: rest =>
    let (tokens, dangling) := tokensOf (start + 2) rest
    (⟨['\\', c], start⟩ :: tokens, dangling)
  | start, c :: rest =>
    let (tokens, dangling) := tokensOf (start + 1) rest
    (⟨[c], start⟩ :: tokens, dangling)

/-- What has been read so far. -/
structure Progress where
  /-- The tokens still to be read. -/
  tokens : List Token
  /-- Whether a lone backslash stands behind them. -/
  dangling : Bool
  /-- The number of characters in all. -/
  length : Nat
  /-- The flags for the whole pattern. -/
  flags : Flags := {}
  /-- The widths of the groups, the latest first; none for those still open. -/
  widths : List (Option (Nat × Nat)) := []
  /-- The groups with names. -/
  names : List (String × Nat) := []
  /-- The number of the first group inside the outermost look-behind, while in one. -/
  lookbehind : Option Nat := none
  /-- The groups that conditions ask for, with the places. -/
  conditions : List (Nat × Nat) := []

/-- A step of reading. -/
abbrev Read := StateT Progress (Except Reject)

/-- The next token. -/
def peek : Read (Option Token) := return (← get).tokens.head?

/-- The place of the next token. -/
def place : Read Nat := do
  let progress ← get
  return (progress.tokens.head?.map (·.start)).getD progress.length

/-- Refuses the pattern for a fault that lies some characters before the next token. -/
def failBack {α : Type} (cause : Cause) (back : Nat) : Read α := do
  throw (.faulty ⟨cause, some ((← place) - back)⟩)

/-- Refuses the pattern for a fault at a place. -/
def failAt {α : Type} (cause : Cause) (position : Nat) : Read α :=
  throw (.faulty ⟨cause, some position⟩)

/-- Refuses a lone backslash as soon as nothing is left before it. -/
def checkDangling : Read Unit := do
  let progress ← get
  if progress.tokens.isEmpty && progress.dangling then
    failAt .danglingEscape (progress.length - 1)

/-- Takes the next token. -/
def advance : Read (Option Token) := do
  let progress ← get
  match progress.tokens with
  | [] => return none
  | token :: tokens =>
    set { progress with tokens := tokens }
    checkDangling
    return some token

/-- Whether the next token is a given character. -/
def isNext (c : Char) : Read Bool := return (← peek).any (·.chars == [c])

/-- Takes the next token if it is a given character. -/
def accept (c : Char) : Read Bool := do
  if ← isNext c then
    let _ ← advance
    return true
  else return false

/-- Takes up to `count` single characters that pass a test. -/
def takeUpTo (test : Char → Bool) : (count : Nat) → Read (List Char)
  | 0 => return []
  | count + 1 => do
    match ← peek with
    | some ⟨[c], _⟩ =>
      if test c then
        let _ ← advance
        return c :: (← takeUpTo test count)
      else return []
    | _ => return []

/-- The text of a token. -/
def Token.text (token : Token) : String := String.ofList token.chars

/-- Takes all characters up to a terminator, which is taken too.  `done` is what has been taken,
backwards. -/
def takeName (terminator : Char) (what : String) : (steps : Nat) → (done : List Char) → Read String
  | 0, _ => throw (.faulty ⟨.unexpectedEnd, none⟩)
  | steps + 1, done => do
    match ← advance with
    | none =>
      if done.isEmpty then failBack (.missing what) 0
      else failBack (.unterminatedName terminator) done.length
    | some token =>
      if token.chars == [terminator] then
        if done.isEmpty then failBack (.missing what) 1
        else return String.ofList done.reverse
      else takeName terminator what steps (token.chars.reverse ++ done)

/-- A name up to a terminator. -/
def nameUntil (terminator : Char) (what : String) : Read String := do
  takeName terminator what ((← get).tokens.length + 1) []

/-! ### Escapes -/

/-- Whether a character is an octal digit. -/
def isOctalDigit (c : Char) : Bool := '0' ≤ c && c ≤ '7'

/-- Whether a character is a hexadecimal digit. -/
def isHexDigit (c : Char) : Bool := (Bytes.hexValue? c).isSome

/-- The number with these digits in base `base`. -/
def valueOf (base : Nat) (ds : List Char) : Nat :=
  ds.foldl (fun n d => n * base + (Bytes.hexValue? d).getD 0) 0

/-- The control characters with letters. -/
def controlEscape? : Char → Option Nat
  | 'a' => some 7
  | 'b' => some 8
  | 'f' => some 12
  | 'n' => some 10
  | 'r' => some 13
  | 't' => some 9
  | 'v' => some 11
  | '\\' => some 92
  | _ => none

/-- The classes with letters, the capital one for all other characters. -/
def classEscape? : Char → Option SetItem
  | 'd' => some (.class .digit false)
  | 'D' => some (.class .digit true)
  | 's' => some (.class .blank false)
  | 'S' => some (.class .blank true)
  | 'w' => some (.class .word false)
  | 'W' => some (.class .word true)
  | _ => none

/-- The anchors with letters. -/
def anchorEscape? : Char → Option Anchor
  | 'A' => some .textStart
  | 'Z' => some .textEnd
  | 'b' => some .wordBoundary
  | 'B' => some .noWordBoundary
  | _ => none

/-- The text of an escape with the digits taken behind it. -/
def escapeText (c : Char) (ds : List Char) : String := String.ofList ('\\' :: c :: ds)

/-- The code of an escape with a fixed number of hexadecimal digits. -/
def hexEscape (c : Char) (digits : Nat) : Read Nat := do
  let ds ← takeUpTo isHexDigit digits
  let text := escapeText c ds
  if ds.length ≠ digits then failBack (.incompleteEscape text) text.length
  else if 0x110000 ≤ valueOf 16 ds then failBack (.badEscape text) text.length
  else return valueOf 16 ds

/-- The code of an escape with a character's name; no names are known. -/
def namedEscape : Read Nat := do
  if ← accept '\x7b' then
    let name ← nameUntil '\x7d' "character name"
    failBack (.undefinedCharacter name) (name.length + 4)
  else failBack (.missing "\x7b") 0

/-- The code of an escape that means the same inside and outside a set, if the letter has one. -/
def commonEscape? (c : Char) : Read (Option Nat) := do
  match c with
  | 'x' => return some (← hexEscape c 2)
  | 'u' => return some (← hexEscape c 4)
  | 'U' => return some (← hexEscape c 8)
  | 'N' => return some (← namedEscape)
  | _ => return none

/-- An octal code of at most three digits. -/
def octalCode (text : String) (ds : List Char) : Read Nat := do
  let code := valueOf 8 ds
  if 0o377 < code then failBack (.octalTooLarge text) text.length else return code

/-- What an escape means inside a set. -/
def setEscape (c : Char) : Read SetItem := do
  if let some code := controlEscape? c then return .char code
  if let some item := classEscape? c then return item
  if let some code ← commonEscape? c then return .char code
  if isOctalDigit c then
    let ds ← takeUpTo isOctalDigit 2
    return .char (← octalCode (escapeText c ds) (c :: ds))
  if c.isAlphanum then failBack (.badEscape (escapeText c [])) 2
  return .char c.toNat

/-- The width of a group, if it has been closed. -/
def groupWidth? (progress : Progress) (group : Nat) : Option (Nat × Nat) :=
  if 1 ≤ group ∧ group ≤ progress.widths.length then
    (progress.widths.getD (progress.widths.length - group) none)
  else none

/-- Inside a look-behind only groups that were closed before it may be asked for. -/
def checkLookbehind (group : Nat) : Read Unit := do
  let progress ← get
  if let some first := progress.lookbehind then
    if (groupWidth? progress group).isNone then failBack .openReference 0
    if first ≤ group then failBack .lookbehindReference 0

/-- A reference to a group by its number, written as `text`. -/
def referenceTo (text : String) (group : Nat) : Read Node := do
  let progress ← get
  if progress.widths.length < group then failBack (.invalidReference group) (text.length - 1)
  else
    match groupWidth? progress group with
    | none => failBack .openReference text.length
    | some width =>
      checkLookbehind group
      return .backref group width

/-- An escape that starts with a digit other than zero: a reference to a group, or three octal
digits. -/
def digitEscape (c : Char) : Read Node := do
  match ← takeUpTo isAsciiDigit 1 with
  | [d] =>
    let third ← if isOctalDigit c && isOctalDigit d then takeUpTo isOctalDigit 1 else pure []
    match third with
    | [e] => return .char (← octalCode (escapeText c [d, e]) [c, d, e])
    | _ => referenceTo (escapeText c [d]) (valueOf 10 [c, d])
  | _ => referenceTo (escapeText c []) (valueOf 10 [c])

/-- What an escape means outside a set. -/
def escape (c : Char) : Read Node := do
  if let some anchor := anchorEscape? c then return .anchor anchor
  if let some item := classEscape? c then return .set false [item]
  if let some code := controlEscape? c then return .char code
  if let some code ← commonEscape? c then return .char code
  if c = '0' then
    let ds ← takeUpTo isOctalDigit 2
    return .char (valueOf 8 ds)
  if isAsciiDigit c then digitEscape c
  else if c.isAlpha then failBack (.badEscape (escapeText c [])) 2
  else return .char c.toNat

/-! ### Sets -/

/-- An entry of a set that starts with a token. -/
def setEntry (token : Token) : Read SetItem :=
  match token.chars with
  | ['\\', c] => setEscape c
  | c :: _ => return .char c.toNat
  | [] => return .char 0

/-- The end of a range that started with `first`, or the bracket that closes the set. -/
def rangeEnd (here : Nat) (token : Token) (first : SetItem) : Read (Option SetItem) := do
  match ← advance with
  | none => failAt .unterminatedSet here
  | some last =>
    if last.chars == [']'] then return none
    else
      let item ← setEntry last
      let back := token.chars.length + 1 + last.chars.length
      match first, item with
      | .char low, .char high =>
        if high < low then failBack (.badRange token.text last.text) back
        else return some (.range low high)
      | _, _ => failBack (.badRange token.text last.text) back

/-- The entries of a set up to its bracket; a bracket in first place is an entry. -/
def setItems (here : Nat) : (steps : Nat) → (done : List SetItem) → Read (List SetItem)
  | 0, _ => throw (.faulty ⟨.unexpectedEnd, none⟩)
  | steps + 1, done => do
    match ← advance with
    | none => failAt .unterminatedSet here
    | some token =>
      if token.chars == [']'] && !done.isEmpty then return done
      else
        let item ← setEntry token
        if ← accept '-' then
          match ← rangeEnd here token item with
          | some range => setItems here steps (range :: done)
          | none => return .char '-'.toNat :: item :: done
        else setItems here steps (item :: done)

/-- A set whose opening bracket, at `here`, has been read. -/
def set (here : Nat) : Read Node := do
  let negated ← accept '^'
  return .set negated (← setItems here ((← get).tokens.length + 1) [])

/-! ### Repetitions -/

/-- The least number of repetitions that is out of range. -/
def maxRepeat : Nat := 4294967295

/-- A number of repetitions, with a value for when there are no digits. -/
def repeatCount? (ds : List Char) : Read (Option Nat) :=
  if ds.isEmpty then return none
  else if maxRepeat ≤ valueOf 10 ds then throw .repeatOutOfRange
  else return some (valueOf 10 ds)

/-- The numbers of a repetition in braces, of which the opening one has been read; nothing, and
nothing taken, if it is none. -/
def bracedCounts? : Read (Option (Nat × Option Nat)) := do
  let start ← get
  let here ← place
  if ← isNext '\x7d' then return none
  let low ← takeUpTo isAsciiDigit start.tokens.length
  let high ← if ← accept ',' then takeUpTo isAsciiDigit start.tokens.length else pure low
  if ← accept '\x7d' then
    let least ← repeatCount? low
    let most ← repeatCount? high
    if most.any (· < least.getD 0) then failAt .reversedRepeat here
    return some (least.getD 0, most)
  else
    MonadStateOf.set start
    return none

/-- The numbers of a repetition. -/
def counts? (c : Char) : Read (Option (Nat × Option Nat)) :=
  match c with
  | '?' => return some (0, some 1)
  | '*' => return some (0, none)
  | '+' => return some (1, none)
  | _ => bracedCounts?

/-- How a repetition chooses its number. -/
def greed : Read Greed := do
  if ← accept '?' then return .reluctant
  if ← accept '+' then return .possessive
  return .greedy

/-- The latest of the items repeated; `here` is the place of the sign of repetition. -/
def repeatLast (here least : Nat) (most : Option Nat) : List Node → Read (List Node)
  | [] => failAt .nothingToRepeat here
  | .anchor _ :: _ => failAt .nothingToRepeat here
  | .repeated .. :: _ => failAt .multipleRepeat here
  | item :: items => return .repeated (← greed) least most item :: items

/-! ### Groups -/

/-- The flag of a letter. -/
def flag? : Char → Option Flags
  | 'i' => some { ignoreCase := true }
  | 'm' => some { multiline := true }
  | 's' => some { dotAll := true }
  | 'x' => some { verbose := true }
  | 'a' => some { ascii := true }
  | 'u' => some { unicode := true }
  | 't' => some { template := true }
  | _ => none

/-- A letter among flags that is no flag: unknown, or something else is missing. -/
def badFlag {α : Type} (token : Token) (wanted : String) : Read α :=
  match token.chars with
  | [c] =>
    failBack (if isAlphanumeric c && !isDecimalDigit c then .unknownFlag else .missing wanted) 1
  | cs => failBack (.missing wanted) cs.length

/-- The flags that are turned on, from the letter `c` on, and the sign that ends them. -/
def flagsOn : (steps : Nat) → (on : Flags) → Token → Read (Flags × Char)
  | 0, _, _ => throw (.faulty ⟨.unexpectedEnd, none⟩)
  | steps + 1, on, token => do
    match token.chars with
    | ['L'] => failBack .localeFlag 0
    | [c] =>
      match flag? c with
      | none => badFlag token "-, : or )"
      | some flag =>
        let on := on.union flag
        if (flag.ascii || flag.unicode) && on.ascii && on.unicode then failBack .clashingFlags 0
        match ← advance with
        | none => failBack (.missing "-, : or )") 0
        | some token =>
          match token.chars with
          | [')'] => return (on, ')')
          | ['-'] => return (on, '-')
          | [':'] => return (on, ':')
          | _ => flagsOn steps on token
    | _ => badFlag token "-, : or )"

/-- The flags that are turned off, from the token `token` on, up to the colon. -/
def flagsOff (wanted : String) : (steps : Nat) → (off : Flags) → Token → Read Flags
  | 0, _, _ => throw (.faulty ⟨.unexpectedEnd, none⟩)
  | steps + 1, off, token => do
    match token.chars with
    | ['L'] => failBack .scriptFlagOff 0
    | [c] =>
      match flag? c with
      | none => badFlag token wanted
      | some flag =>
        if flag.ascii || flag.unicode then failBack .scriptFlagOff 0
        match ← advance with
        | none => failBack (.missing ":") 0
        | some token =>
          if token.chars == [':'] then return off.union flag
          else flagsOff ":" steps (off.union flag) token
    | _ => badFlag token wanted

/-- The flags of a group from the token `token` on; none if they are for the whole pattern. -/
def groupFlags (token : Token) : Read (Option (Flags × Flags)) := do
  let steps := (← get).tokens.length + 2
  let (on, stop) ← if token.chars == ['-'] then pure ({}, '-') else flagsOn steps {} token
  if stop = ')' then
    modify fun progress => { progress with flags := progress.flags.union on }
    return none
  if on.template then failBack .globalFlagOn 1
  let off ←
    if stop = '-' then
      match ← advance with
      | none => failBack (.missing "flag") 0
      | some token => flagsOff "flag" steps {} token
    else pure {}
  if off.template then failBack .globalFlagOff 1
  if on.inter off ≠ {} then failBack .flagOnAndOff 1
  return some (on, off)

/-- Whether a text can be the name of a group. -/
def isName (name : String) : Bool :=
  match name.toList with
  | [] => false
  | c :: rest => (c = '_' || (isAlphanumeric c && !isDecimalDigit c)) && rest.all isWordChar

/-- Refuses a name, just read with its terminator, that cannot be one. -/
def checkName (name : String) : Read Unit :=
  if isName name then return else failBack (.badGroupName name) (name.length + 1)

/-- The number of a group by its name, just read with its terminator. -/
def groupNamed (name : String) : Read Nat := do
  match (← get).names.lookup name with
  | some group => return group
  | none => failBack (.unknownGroupName name) (name.length + 1)

/-- Opens a new group. -/
def openGroup (name : Option String) : Read Nat := do
  let progress ← get
  let group := progress.widths.length + 1
  if let some name := name then
    if let some earlier := progress.names.lookup name then
      failBack (.redefinedGroupName name group earlier) (name.length + 1)
  MonadStateOf.set
    { progress with
      widths := none :: progress.widths
      names := (name.map (·, group)).toList ++ progress.names }
  return group

/-- Closes a group. -/
def closeGroup (group : Nat) (body : Node) : Read Unit :=
  modify fun progress =>
    { progress with
      widths := progress.widths.set (progress.widths.length - group) (some body.width) }

/-- A reference to a group by its name, after the equals sign. -/
def namedReference : Read Node := do
  let name ← nameUntil ')' "group name"
  checkName name
  let group ← groupNamed name
  match groupWidth? (← get) group with
  | none => failBack .openReference (name.length + 1)
  | some width =>
    checkLookbehind group
    return .backref group width

/-- The group that a condition asks for, after its parenthesis. -/
def condition : Read Nat := do
  let name ← nameUntil ')' "group name"
  let group ←
    if isName name then groupNamed name
    else
      match Numeral.readInt? name with
      | some (.ofNat 0) => failBack .badGroupNumber (name.length + 1)
      | some (.ofNat group) =>
        let position := (← place) - (name.length + 1)
        modify fun progress =>
          { progress with
            conditions :=
              if (progress.conditions.lookup group).isSome then progress.conditions
              else progress.conditions ++ [(group, position)] }
        pure group
      | _ => failBack (.badGroupName name) (name.length + 1)
  checkLookbehind group
  return group

/-- Passes over a comment up to its parenthesis; `start` is where it began. -/
def skipComment (start : Nat) : (steps : Nat) → Read Unit
  | 0 => failAt .unterminatedComment start
  | steps + 1 => do
    match ← peek with
    | none => failAt .unterminatedComment start
    | some token =>
      let _ ← advance
      if token.chars == [')'] then return else skipComment start steps

/-- Passes over the rest of a line. -/
def skipLine : (steps : Nat) → Read Unit
  | 0 => return
  | steps + 1 => do
    match ← advance with
    | none => return
    | some token => if token.chars == ['\n'] then return else skipLine steps

/-- What stands behind an opening parenthesis. -/
inductive Opening where
  /-- A group with or without capture, and with flags. -/
  | group (name : Option String) (captures : Bool) (on off : Flags)
  | atomic
  | look (ahead negated : Bool)
  | conditional (group : Nat)
  /-- A pattern that is complete. -/
  | whole (node : Node)
  /-- Nothing that is part of the pattern. -/
  | nothing
  /-- Flags for the whole pattern. -/
  | flags

/-- A plain group. -/
def Opening.plain : Opening := .group none true {} {}

/-- What stands behind `(?P`. -/
def namedOpening : Read Opening := do
  if ← accept '<' then
    let name ← nameUntil '>' "group name"
    checkName name
    return .group (some name) true {} {}
  if ← accept '=' then return .whole (← namedReference)
  match ← advance with
  | none => failBack .unexpectedEnd 0
  | some token => failBack (.unknownExtension ("P" ++ token.text)) (token.chars.length + 2)

/-- What stands behind `(?<`. -/
def lookbehindOpening : Read Opening := do
  match ← advance with
  | none => failBack .unexpectedEnd 0
  | some token =>
    match token.chars with
    | ['='] => return .look false false
    | ['!'] => return .look false true
    | cs => failBack (.unknownExtension ("<" ++ token.text)) (cs.length + 2)

/-- What stands behind an opening parenthesis at `start`. -/
def opening (start : Nat) : Read Opening := do
  if !(← accept '?') then return .plain
  match ← advance with
  | none => failBack .unexpectedEnd 0
  | some token =>
    match token.chars with
    | ['P'] => namedOpening
    | [':'] => return .group none false {} {}
    | ['#'] =>
      skipComment start ((← get).tokens.length + 1)
      return .nothing
    | ['='] => return .look true false
    | ['!'] => return .look true true
    | ['<'] => lookbehindOpening
    | ['('] => return .conditional (← condition)
    | ['>'] => return .atomic
    | cs =>
      if cs == ['-'] || cs == ['L'] || (cs.length = 1 && (cs.head?.bind flag?).isSome) then
        match ← groupFlags token with
        | none => return .flags
        | some (on, off) => return .group none false on off
      else failBack (.unknownExtension token.text) (cs.length + 1)

/-- Takes the parenthesis that closes what was opened at `start`. -/
def close (start : Nat) : Read Unit := do
  if !(← accept ')') then failAt .unterminatedGroup start

/-! ### Patterns -/

/-- Whether blanks and comments are passed over inside a group. -/
def verboseInside (verbose : Bool) (on off : Flags) : Bool :=
  (verbose || on.verbose) && !off.verbose

/-- Items in their order as one pattern, given the latest first. -/
def sequence (items : List Node) : Node :=
  match items with
  | [] => .empty
  | item :: items => items.foldl (fun rest item => .seq item rest) item

mutual

/-- Alternatives.  `top` says that no group is open, `first` that nothing has been read yet. -/
def alternatives : (steps : Nat) → (verbose top first : Bool) → Read Node
  | 0, _, _, _ => throw (.faulty ⟨.unexpectedEnd, none⟩)
  | steps + 1, verbose, top, first => do
    let node ← items steps verbose (top && first) []
    if ← accept '|' then
      let global := (← get).flags.verbose
      return .alt node (← alternatives steps (if top then global else verbose) top false)
    else return node

/-- Items up to the end of an alternative; `done` are those read, the latest first. -/
def items : (steps : Nat) → (verbose first : Bool) → (done : List Node) → Read Node
  | 0, _, _, _ => throw (.faulty ⟨.unexpectedEnd, none⟩)
  | steps + 1, verbose, first, done => do
    match ← peek with
    | none => return sequence done
    | some token =>
      match token.chars with
      | ['|'] => return sequence done
      | [')'] => return sequence done
      | ['\\', c] =>
        let _ ← advance
        let node ← escape c
        items steps verbose first (node :: done)
      | [c] =>
        let _ ← advance
        if verbose && (c = ' ' || (9 ≤ c.toNat && c.toNat ≤ 13)) then
          items steps verbose first done
        else if verbose && c = '#' then
          skipLine ((← get).tokens.length + 1)
          items steps verbose first done
        else if c = '[' then
          let node ← set token.start
          items steps verbose first (node :: done)
        else if c = '*' || c = '+' || c = '?' || c = '\x7b' then
          match ← counts? c with
          | none => items steps verbose first (.char c.toNat :: done)
          | some (least, most) =>
            let done ← repeatLast token.start least most done
            items steps verbose first done
        else if c = '.' then items steps verbose first (.any :: done)
        else if c = '^' then items steps verbose first (.anchor .lineStart :: done)
        else if c = '$' then items steps verbose first (.anchor .lineEnd :: done)
        else if c = '(' then
          match ← opening token.start with
          | .nothing => items steps verbose first done
          | .flags =>
            if first && done.isEmpty then
              let verbose := (← get).flags.verbose
              items steps verbose first done
            else failAt .lateFlags token.start
          | .whole node => items steps verbose first (node :: done)
          | opening =>
            let node ← group steps verbose token.start opening
            items steps verbose first (node :: done)
        else items steps verbose first (.char c.toNat :: done)
      | _ => return sequence done

/-- The body of what was opened at `start`, with its closing parenthesis. -/
def group : (steps : Nat) → (verbose : Bool) → (start : Nat) → Opening → Read Node
  | 0, _, _, _ => throw (.faulty ⟨.unexpectedEnd, none⟩)
  | steps + 1, verbose, start, opening => do
    match opening with
    | .group name true on off =>
      let index ← openGroup name
      let body ← alternatives steps (verboseInside verbose on off) false false
      close start
      closeGroup index body
      return .group (some index) on off body
    | .group _ false on off =>
      let body ← alternatives steps (verboseInside verbose on off) false false
      close start
      return .group none on off body
    | .atomic =>
      let body ← alternatives steps verbose false false
      close start
      return .atomic body
    | .look ahead negated =>
      let outer := (← get).lookbehind
      if !ahead && outer.isNone then
        modify fun progress => { progress with lookbehind := some (progress.widths.length + 1) }
      let body ← alternatives steps verbose false false
      if !ahead && outer.isNone then modify fun progress => { progress with lookbehind := none }
      close start
      return .look ahead negated body
    | .conditional index =>
      let yes ← items steps verbose false []
      let no ←
        if ← accept '|' then
          let no ← items steps verbose false []
          if ← isNext '|' then failBack .thirdBranch 0
          pure no
        else pure .empty
      close start
      return .conditional index yes no
    | _ => return .empty

end

/-! ### Whole patterns -/

/-- The first thing in a pattern that no matcher can be made for: a look-behind whose width is not
fixed, or a repetition where there may be none. -/
def unmatchable? (template : Bool) : Node → Option Cause
  | .seq a b | .alt a b | .conditional _ a b =>
    (unmatchable? template a).or (unmatchable? template b)
  | .group _ on off body => unmatchable? ((template || on.template) && !off.template) body
  | .atomic body => unmatchable? template body
  | .repeated greed _ _ body =>
    if template then some (.templateRepeat greed) else unmatchable? template body
  | .look ahead _ body =>
    if ahead then unmatchable? template body
    else if maxRepeat < body.width.1 then some .farLookbehind
    else if body.width.1 ≠ body.width.2 then some .variableLookbehind
    else unmatchable? template body
  | _ => none

/-- A pattern with the flags for the whole of it. -/
structure Compiled where
  node : Node
  flags : Flags
  deriving DecidableEq, Repr

/-- Reads a whole pattern. -/
def wholePattern : Read Compiled := do
  checkDangling
  let steps := 4 * (← get).tokens.length + 8
  let node ← alternatives steps false true true
  let progress ← get
  if progress.flags.ascii && progress.flags.unicode then throw .scriptFlagsClash
  if !progress.tokens.isEmpty then failBack .unbalancedParenthesis 0
  match progress.conditions.find? fun (group, _) => progress.widths.length < group with
  | some (group, position) => failAt (.invalidReference group) position
  | none =>
    match unmatchable? progress.flags.template node with
    | some cause => throw (.faulty ⟨cause, none⟩)
    | none => return ⟨node, progress.flags⟩

/-- A pattern from its text. -/
def compile (text : String) : Except Reject Compiled :=
  let cs := text.toList
  let (tokens, dangling) := tokensOf 0 cs
  (wholePattern.run { tokens, dangling, length := cs.length }).map (·.1)

/-- Whether a compiled pattern matches a whole text. -/
def Compiled.matchesAll (pattern : Compiled) (text : String) : Bool :=
  pattern.node.matchesAll pattern.flags text.toList

end LoginGate.Pattern
