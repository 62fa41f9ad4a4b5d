/-!
# Denials

## Main definitions

* `Denial` : the answer to a request that is denied.
-/

namespace LoginGate

/-- The answer to a request that is denied. -/
structure Denial where
  /-- The HTTP status. -/
  status : Int
  /-- The kind of error, in a word. -/
  error : String
  description : String
  deriving DecidableEq, Repr

/-- A denial without description is described by its kind. -/
def Denial.make (status : Int) (error description : String) : Denial :=
  ⟨status, error, if description.isEmpty then error else description⟩

end LoginGate
