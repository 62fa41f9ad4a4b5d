import LoginGate.Text.Blank
import LoginGate.Text.LowerCase

/-!
# The parts of a URL

Splits a URL by its delimiters without judging what stands between them.  Tabs and line ends are
dropped first.  A scheme is a letter with letters, digits, plus, minus and points up to the first
colon; an authority follows two slashes and ends at the next slash, question mark or number sign.

## Main definitions

* `Url.Parts` : scheme, authority and the rest.
* `Url.split?` : the parts; a bracket without its partner in the authority is refused, and so is a
  character there that compatibility normalization turns into a delimiter.
* `Url.Parts.host?` : the host's name in lower case.
-/

namespace LoginGate.Url

/-- Scheme, authority and the rest of a URL. -/
structure Parts where
  /-- The scheme in lower case, empty if there is none. -/
  scheme : List Char
  /-- What stands between two slashes and the path. -/
  authority : List Char
  /-- Path, query and fragment. -/
  rest : List Char
  deriving DecidableEq, Repr

/-- The characters that are dropped wherever they stand. -/
def isDropped (c : Char) : Bool := c = '\t' || c = '\r' || c = '\n'

/-- The characters of a scheme. -/
def isSchemeChar (c : Char) : Bool := c.isAlphanum || c = '+' || c = '-' || c = '.'

/-- The scheme in front of the first colon, and what follows the colon. -/
def splitScheme (cs : List Char) : List Char × List Char :=
  let scheme := cs.takeWhile (· ≠ ':')
  match cs.dropWhile (· ≠ ':') with
  | _ :: rest =>
    if scheme.head?.any Char.isAlpha && scheme.all isSchemeChar then (scheme.map Char.toLower, rest)
    else ([], cs)
  | [] => ([], cs)

/-- Whether a character ends an authority. -/
def endsAuthority (c : Char) : Bool := c = '/' || c = '?' || c = '#'

/-- The characters outside ASCII whose compatibility form has one of the delimiters `/?#@:`. -/
def delimiterLike : List Nat := [
  0x2047, 0x2048, 0x2049, 0x2100, 0x2101, 0x2105, 0x2106, 0x2A74, 0xFE13, 0xFE16, 0xFE55, 0xFE56,
  0xFE5F, 0xFE6B, 0xFF03, 0xFF0F, 0xFF1A, 0xFF1F, 0xFF20]

/-- Whether an authority can be split: its brackets have partners, and no character in it turns
into a delimiter. -/
def isSound (authority : List Char) : Bool :=
  authority.contains '[' == authority.contains ']' &&
    authority.all fun c => !delimiterLike.contains c.toNat

/-- The parts of a URL, if its authority can be split. -/
def split? (url : String) : Option Parts :=
  let (scheme, cs) := splitScheme (url.toList.filter (!isDropped ·))
  match cs with
  | '/' :: '/' :: cs =>
    let authority := cs.takeWhile (!endsAuthority ·)
    if isSound authority then some ⟨scheme, authority, cs.dropWhile (!endsAuthority ·)⟩ else none
  | _ => some ⟨scheme, [], cs⟩

/-- What follows the last occurrence of a character, or everything. -/
def afterLast (c : Char) (cs : List Char) : List Char :=
  (cs.reverse.takeWhile (· ≠ c)).reverse

/-- The host's name between user and port, without brackets. -/
def Parts.hostName (parts : Parts) : List Char :=
  let host := afterLast '@' parts.authority
  if host.contains '[' then ((host.dropWhile (· ≠ '[')).drop 1).takeWhile (· ≠ ']')
  else host.takeWhile (· ≠ ':')

/-- The host's name, in lower case up to a zone that a percent sign starts. -/
def Parts.host? (parts : Parts) : Option String :=
  let name := parts.hostName
  if name.isEmpty then none
  else
    some (String.ofList
      (toLowerChars (name.takeWhile (· ≠ '%')) ++ name.dropWhile (· ≠ '%')))

/-- Whether the scheme is the one for encrypted connections. -/
def Parts.isHttps (parts : Parts) : Bool := parts.scheme = "https".toList

end LoginGate.Url
