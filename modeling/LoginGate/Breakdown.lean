/-!
# Breakdowns

A fault is an answer that the gate gives by its own rules.  A breakdown is a situation for which
there is no rule: the step ends without an answer.

## Main definitions

* `Breakdown` : the situations.
* `Failure` : a fault or a breakdown.
* `Failure.map` : a failure with its fault told in another way.
-/

namespace LoginGate

/-- A situation for which the gate has no rule. -/
inductive Breakdown where
  /-- An address that cannot be split into its parts. -/
  | address
  /-- A request address that no request can be sent to. -/
  | requestAddress
  /-- An address of a key set that no client takes. -/
  | keySetAddress
  /-- A request for a key set that ends in an error without words. -/
  | keySetExchange
  /-- A key set that is not JSON. -/
  | keySetText
  /-- A token or a key set that nests deeper than can be read. -/
  | nesting
  /-- A published key that nothing can be made of. -/
  | publishedKey
  /-- A signing algorithm that is an array or an object. -/
  | algorithmKind
  /-- A key that is of no use for the algorithm. -/
  | keyKind
  /-- A secret where the algorithm takes the text of a key. -/
  | keyText
  /-- A time in a token that is no number. -/
  | timeKind
  /-- A last moment without zone, which cannot be compared with now. -/
  | zonelessExpiry
  /-- A lifetime that ends beyond the last date. -/
  | lifetime
  /-- A text with an unpaired surrogate, which cannot be written. -/
  | unpairedSurrogate
  /-- A bypass pattern that counts further than a repetition can. -/
  | patternCount
  /-- A bypass pattern with flags that exclude each other. -/
  | patternFlags
  /-- A bypass pattern that nests deeper than can be read. -/
  | patternNesting
  /-- The body of a refusal that is no text in the encoding that it names. -/
  | bodyText
  /-- An entry taken out of a cache that holds none. -/
  | emptyCache
  /-- A cookie name that no header may carry. -/
  | cookieName
  /-- A header with a character that no header may carry. -/
  | headerCharacter
  deriving DecidableEq, Repr

/-- Why something did not come about: a fault, or a breakdown. -/
inductive Failure (F : Type) where
  | fault (fault : F)
  | breakdown (breakdown : Breakdown)
  deriving DecidableEq, Repr

/-- A failure whose fault is told in another way. -/
def Failure.map {F G : Type} (tell : F → G) : Failure F → Failure G
  | .fault cause => .fault (tell cause)
  | .breakdown cause => .breakdown cause

end LoginGate
