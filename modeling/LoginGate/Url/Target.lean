import LoginGate.Url.Host

/-!
# Addresses that requests go to

A request address is written in one way: scheme and host in lower case, without a port that goes
without saying, without dot segments, and with percent codes for what may not stand in an address.

## Main definitions

* `Target.normal?` : a request address in its one way, if a request can go there.
-/

namespace LoginGate.Target

/-- What splits off an address. -/
structure Pieces where
  scheme : List Char
  authority : Option (List Char)
  path : List Char
  query : Option (List Char)
  fragment : Option (List Char)

/-- The characters of a scheme. -/
def isSchemeChar (c : Char) : Bool := c.isAlphanum || c = '+' || c = '.' || c = '-'

/-- The scheme, if there is one, and what follows. -/
def takeScheme (cs : List Char) : List Char × List Char :=
  let name := cs.takeWhile isSchemeChar
  match cs.dropWhile isSchemeChar with
  | ':' :: rest => if name.isEmpty || name.head?.any Char.isAlpha then (name, rest) else ([], cs)
  | _ => ([], cs)

/-- What follows a mark, if the mark comes first, up to one of some ends. -/
def takeAfter (mark : Char) (ends : List Char) (cs : List Char) : Option (List Char) × List Char :=
  match cs with
  | c :: rest =>
    if c = mark then
      (some (rest.takeWhile (!ends.contains ·)), rest.dropWhile (!ends.contains ·))
    else (none, cs)
  | [] => (none, [])

/-- Splits an address by its delimiters. -/
def pieces (cs : List Char) : Pieces :=
  let (scheme, cs) := takeScheme cs
  let (authority, cs) :=
    match cs with
    | '/' :: '/' :: rest =>
      let isEnd (c : Char) : Bool := c = '/' || c = '?' || c = '#'
      (some (rest.takeWhile (!isEnd ·)), rest.dropWhile (!isEnd ·))
    | _ => (none, cs)
  let isPathEnd (c : Char) : Bool := c = '?' || c = '#'
  let path := cs.takeWhile (!isPathEnd ·)
  let (query, cs) := takeAfter '?' ['#'] (cs.dropWhile (!isPathEnd ·))
  let (fragment, _) := takeAfter '#' [] cs
  ⟨scheme, authority, path, query, fragment⟩

/-- User, host and port of an authority. -/
structure Authority where
  user : List Char
  host : List Char
  port : List Char

/-- What precedes the last occurrence of a character, and what follows it. -/
def splitLast (mark : Char) (cs : List Char) : List Char × List Char :=
  let after := (cs.reverse.takeWhile (· ≠ mark)).reverse
  (cs.take (cs.length - after.length - 1), after)

/-- Splits an authority.  A host in brackets reaches to the last closing bracket. -/
def authority (cs : List Char) : Authority :=
  let (user, rest) := splitLast '@' cs
  if rest.head? = some '[' && rest.contains ']' then
    let (inner, port) := splitLast ']' rest
    ⟨user, inner ++ [']'], if port.head? = some ':' then port.drop 1 else port⟩
  else
    ⟨user, rest.takeWhile (· ≠ ':'), (rest.dropWhile (· ≠ ':')).drop 1⟩

/-! ### Percent codes -/

/-- Whether a character may stand in an address at all. -/
def isVisible (c : Char) : Bool := 0x21 ≤ c.toNat && c.toNat ≤ 0x7E

/-- The characters that stand for themselves in a path. -/
def isPathChar (c : Char) : Bool :=
  isVisible c && !(['"', '#', '<', '>', '?', '\x60', '\x7b', '\x7d'].contains c)

/-- The characters that stand for themselves in a query. -/
def isQueryChar (c : Char) : Bool := isVisible c && !(['"', '#', '<', '>'].contains c)

/-- The characters that stand for themselves in a fragment. -/
def isFragmentChar (c : Char) : Bool := isVisible c && !(['"', '<', '>', '\x60'].contains c)

/-- The characters that stand for themselves in a user's name and password. -/
def isUserChar (c : Char) : Bool :=
  isPathChar c && !(['/', ';', '=', '@', '[', '\\', ']', '^', '|'].contains c)

/-- The characters that stand for themselves in a host. -/
def isHostChar (c : Char) : Bool :=
  c.isAlphanum || "-._~!$&'()*+,;=\"\x60\x7b\x7d%|\\".toList.contains c

/-- Percent codes for what is not to be kept; codes that are there already stay. -/
def quote (keep : Char → Bool) : List Char → List Char
  | [] => []
  | '%' :: a :: b :: rest =>
    if Percent.isCodeStart [a, b] then '%' :: a :: b :: quote keep rest
    else Percent.encodeChar keep '%' ++ quote keep (a :: b :: rest)
  | c :: rest => Percent.encodeChar keep c ++ quote keep rest

/-! ### Parts -/

/-- Whether a text is digits with some marks between them, each of which may be any character;
`begun` tells whether there is a digit since the last mark. -/
def hasMarks : (marks : Nat) → (begun : Bool) → List Char → Bool
  | marks, begun, [] => marks = 0 && begun
  | 0, _, c :: rest => isAsciiDigit c && hasMarks 0 true rest
  | marks + 1, begun, c :: rest =>
    (isAsciiDigit c && hasMarks (marks + 1) true rest) || (begun && hasMarks marks false rest)

/-- Whether a host looks like four numbers, and has to be a numeric address. -/
def looksNumeric (cs : List Char) : Bool := hasMarks 3 false cs

/-- A host in its one way. -/
def host? (cs : List Char) : Option (List Char) :=
  if cs.isEmpty then some []
  else if looksNumeric cs then (Host.octets? cs).map fun _ => cs
  else if cs.head? = some '[' && cs.getLast? = some ']' then
    let inner := (cs.drop 1).dropLast
    (Host.groups? inner).map fun _ => inner
  else if cs.all (·.toNat < 128) then some (quote isHostChar (cs.map Char.toLower))
  else some (Host.ascii cs)

/-- The port that goes without saying. -/
def defaultPort? (scheme : List Char) : Option Int :=
  [("http", 80), ("https", 443), ("ftp", 21), ("ws", 80), ("wss", 443)].lookup
    (String.ofList scheme)

/-- A port, if it has to be said; refused if it is no number. -/
def port? (scheme cs : List Char) : Option (Option Int) :=
  if cs.isEmpty then some none
  else
    (Numeral.readInt? (String.ofList cs)).map fun n =>
      if defaultPort? scheme = some n then none else some n

/-- Goes through segments and takes back one for every two dots; `done` are those kept,
backwards. -/
def walk : (done : List (List Char)) → List (List Char) → List (List Char)
  | done, [] => done.reverse
  | done, ['.'] :: rest => walk done rest
  | done, ['.', '.'] :: rest => walk (if done = [[]] then done else done.drop 1) rest
  | done, segment :: rest => walk (segment :: done) rest

/-- Segments with slashes between them. -/
def joinSegments : List (List Char) → List Char
  | [] => []
  | [segment] => segment
  | segment :: rest => segment ++ '/' :: joinSegments rest

/-- A path without dot segments. -/
def plainPath (cs : List Char) : List Char :=
  let segments := splitAt '/' cs
  if segments.contains ['.'] || segments.contains ['.', '.'] then joinSegments (walk [] segments)
  else cs

/-- A text with a mark in front, if it is there. -/
def marked (mark : Char) : Option (List Char) → List Char
  | none => []
  | some cs => mark :: cs

/-- The most characters of an address. -/
def maxLength : Nat := 65536

/-- A request address in its one way. -/
def normal? (url : String) : Option String := do
  let cs := url.toList
  if maxLength < cs.length || cs.any (fun c => c.toNat < 0x20 || c.toNat = 0x7F) then none
  let parts := pieces cs
  let scheme := parts.scheme.map Char.toLower
  let names := authority (parts.authority.getD [])
  let user := quote isUserChar names.user
  let host ← host? names.host
  let port ← port? parts.scheme names.port
  let hasAuthority := !user.isEmpty || !host.isEmpty || port.isSome
  let startsWithSlash := parts.path.head? = some '/'
  if hasAuthority && !parts.path.isEmpty && !startsWithSlash then none
  if scheme.isEmpty && !hasAuthority &&
      (parts.path.take 2 = ['/', '/'] || parts.path.head? = some ':') then none
  let path := if scheme.isEmpty && !hasAuthority then parts.path else plainPath parts.path
  let place :=
    (if user.isEmpty then [] else user ++ ['@']) ++
      (if host.contains ':' then '[' :: host ++ [']'] else host) ++
      (match port with
      | some n => ':' :: (toString n).toList
      | none => [])
  some (String.ofList (
    (if scheme.isEmpty then [] else scheme ++ [':']) ++
      (if place.isEmpty then [] else '/' :: '/' :: place) ++ quote isPathChar path ++
      marked '?' (parts.query.map (quote isQueryChar)) ++
      marked '#' (parts.fragment.map (quote isFragmentChar))))

end LoginGate.Target
