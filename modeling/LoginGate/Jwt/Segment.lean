import LoginGate.Base64.Basic

/-!
# Segments of signed tokens

## Main definitions

* `Jwt.segment?` : the bytes of a segment.
* `Jwt.splitLastPoint?`, `Jwt.splitPoint?` : the texts around a point.
-/

namespace LoginGate.Jwt

/-- The bytes of a segment.  It has no padding or all of it, and it is the one spelling of its
bytes. -/
def segment? (cs : List Char) : Option Bytes := do
  let body := (cs.reverse.dropWhile (· = '=')).reverse
  let bytes ← Base64.readLenient? (Base64.padded body)
  if Base64.encodeChars .urlSafe bytes = body && (cs = body || cs = Base64.padded body) then
    some bytes
  else none

/-- What precedes the last point, and what follows it. -/
def splitLastPoint? (cs : List Char) : Option (List Char × List Char) :=
  let after := (cs.reverse.takeWhile (· ≠ '.')).reverse
  if after.length < cs.length then some (cs.take (cs.length - after.length - 1), after) else none

/-- What precedes the first point, and what follows it. -/
def splitPoint? (cs : List Char) : Option (List Char × List Char) :=
  match cs.dropWhile (· ≠ '.') with
  | _ :: rest => some (cs.takeWhile (· ≠ '.'), rest)
  | [] => none

end LoginGate.Jwt
