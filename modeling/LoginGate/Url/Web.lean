import LoginGate.Url.Target

/-!
# Web addresses

Addresses of web pages as browsers read them, in their normal form.  Blanks around are dropped,
backslashes count as slashes, and the number of slashes before the host does not matter.

## Main definitions

* `Web.normal` : the normal form of an address, or why there is none.
-/

namespace LoginGate.Web

/-- Why a text is no web address. -/
inductive Fault where
  /-- It is longer than addresses may be. -/
  | tooLong
  /-- It is no address. -/
  | unreadable
  /-- It is an address, but of something else than a web page. -/
  | otherScheme
  deriving DecidableEq, Repr

/-- The most bytes of an address. -/
def maxBytes : Nat := 2083

/-- The characters dropped at both ends. -/
def isEdge (c : Char) : Bool := c.toNat ≤ 0x20

/-- Whether a character is a slash of either kind. -/
def isSlash (c : Char) : Bool := c = '/' || c = '\\'

/-- Whether a character ends an authority. -/
def endsAuthority (c : Char) : Bool := isSlash c || c = '?' || c = '#'

/-- The characters that stand for themselves in a query. -/
def isQueryChar (c : Char) : Bool := Target.isQueryChar c && c ≠ '\''

/-- The characters that stand for themselves in a path; a percent sign stays as it is. -/
def isPathChar (c : Char) : Bool := Target.isPathChar c

/-- The characters that stand for themselves in a user's name and password. -/
def isUserChar (c : Char) : Bool := Target.isUserChar c && c ≠ ':'

/-- Whether a host's name must not hold a character. -/
def isForbidden (c : Char) : Bool :=
  c.toNat ≤ 0x20 || c.toNat = 0x7F ||
    ['#', '/', ':', '<', '>', '?', '@', '[', '\\', ']', '^', '|', '%'].contains c

/-- A host in its normal form. -/
def host? (cs : List Char) : Option (List Char) :=
  if cs.head? = some '[' then
    if cs.getLast? = some ']' then
      (Host.groups? ((cs.drop 1).dropLast)).map fun groups => '[' :: Host.groupsText groups ++ [']']
    else none
  else
    let name := Host.ascii (Percent.decode cs)
    if name.isEmpty || name.any isForbidden then none
    else if Host.endsInNumber name then (Host.address? name).map Host.addressText
    else some name

/-- A port, if it has to be said. -/
def port? (scheme : String) (cs : List Char) : Option (List Char) :=
  if cs.isEmpty then some []
  else if cs.all isAsciiDigit then
    let n := Numeral.digitsValue cs
    if 65535 < n then none
    else if (scheme = "http" && n = 80) || (scheme = "https" && n = 443) then some []
    else some (':' :: (toString n).toList)
  else none

/-- Whether a segment stands for the place itself, also in percent codes. -/
def isSingleDot (segment : List Char) : Bool :=
  segment = ['.'] || segment.map Char.toLower = "%2e".toList

/-- Whether a segment stands for one place up, also in percent codes. -/
def isDoubleDot (segment : List Char) : Bool :=
  ["..", ".%2e", "%2e.", "%2e%2e"].contains (String.ofList (segment.map Char.toLower))

/-- Goes through segments; `done` are those kept, backwards. -/
def walk : (done : List (List Char)) → List (List Char) → List (List Char)
  | done, [] => done.reverse
  | done, segment :: rest =>
    let done := if isDoubleDot segment then done.drop 1 else done
    if isDoubleDot segment || isSingleDot segment then
      walk (if rest.isEmpty then [] :: done else done) rest
    else walk (segment :: done) rest

/-- A path in its normal form; it begins with a slash. -/
def path (cs : List Char) : List Char :=
  let cs := cs.map fun c => if c = '\\' then '/' else c
  let segments := splitAt '/' (if cs.head? = some '/' then cs.drop 1 else cs)
  '/' :: Target.joinSegments ((walk [] segments).map (Percent.encode isPathChar))

/-- A user's name and password in front of the host. -/
def user (cs : List Char) : List Char :=
  let name := Percent.encode isUserChar (cs.takeWhile (· ≠ ':'))
  let password := Percent.encode isUserChar ((cs.dropWhile (· ≠ ':')).drop 1)
  if name.isEmpty && password.isEmpty then []
  else name ++ (if password.isEmpty then [] else ':' :: password) ++ ['@']

/-- User, host and port in their normal form. -/
def authority? (scheme : String) (cs : List Char) : Option (List Char) := do
  let (before, after) := Target.splitLast '@' cs
  let parts := Target.authority after
  let host ← host? parts.host
  let port ← port? scheme parts.port
  pure (user before ++ host ++ port)

/-- The normal form of what follows the scheme of a web address. -/
def rest? (scheme : String) (cs : List Char) : Option (List Char) := do
  let cs := cs.dropWhile isSlash
  let authority ← authority? scheme (cs.takeWhile (!endsAuthority ·))
  let cs := cs.dropWhile (!endsAuthority ·)
  let isPathEnd (c : Char) : Bool := c = '?' || c = '#'
  let (query, rest) := Target.takeAfter '?' ['#'] (cs.dropWhile (!isPathEnd ·))
  let (fragment, _) := Target.takeAfter '#' [] rest
  pure ('/' :: '/' :: authority ++ path (cs.takeWhile (!isPathEnd ·)) ++
    Target.marked '?' (query.map (Percent.encode isQueryChar)) ++
    Target.marked '#' (fragment.map (Percent.encode Target.isFragmentChar)))

/-- The normal form of a web address. -/
def normal (url : String) : Except Fault String :=
  if maxBytes < url.utf8ByteSize then .error .tooLong
  else
    let cs := ((url.toList.dropWhile isEdge).reverse.dropWhile isEdge).reverse
    let cs := cs.filter fun c => !(c = '\t' || c = '\n' || c = '\r')
    let (name, rest) := Target.takeScheme cs
    let scheme := String.ofList (name.map Char.toLower)
    if name.isEmpty then .error .unreadable
    else if scheme = "http" || scheme = "https" then
      match rest? scheme rest with
      | some found => .ok (scheme ++ ":" ++ String.ofList found)
      | none => .error .unreadable
    else .error .otherScheme

end LoginGate.Web
