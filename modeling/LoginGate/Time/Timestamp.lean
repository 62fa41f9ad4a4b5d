import LoginGate.Time.Civil

/-!
# Instants and timestamps

An instant is a number of microseconds since the start of 1970 in UTC.  A timestamp is what a clock
on the wall shows, with the clock's offset from UTC where that is known.

## Main definitions

* `Instant`, `Timestamp` : the two.
* `Timestamp.ofInstant`, `Timestamp.instant?` : UTC timestamps, and the instant that is meant.
* `Timestamp.text` : date, time and zone.
-/

namespace LoginGate

/-- Microseconds since 1970-01-01T00:00 UTC. -/
abbrev Instant := Int

/-- Microseconds of a second. -/
def microsPerSecond : Int := 1000000

/-- Microseconds of a day. -/
def microsPerDay : Int := 86400000000

/-- A date with a time of day and perhaps a zone. -/
structure Timestamp where
  /-- Microseconds since 1970-01-01T00:00 by the clock on the wall. -/
  wall : Int
  /-- The clock's offset, in seconds east of UTC. -/
  offset : Option Int
  deriving DecidableEq, Repr

namespace Timestamp

/-- The first microsecond of the year 1. -/
def minWall : Int := -62135596800000000

/-- The last microsecond of the year 9999. -/
def maxWall : Int := 253402300799999999

/-- Whether a date lies in the years from 1 to 9999. -/
def inRange (wall : Int) : Bool := minWall ≤ wall && wall ≤ maxWall

/-- An instant as a timestamp in UTC. -/
def ofInstant (t : Instant) : Timestamp := ⟨t, some 0⟩

/-- The instant that a timestamp with a known zone means. -/
def instant? (t : Timestamp) : Option Instant :=
  t.offset.map fun offset => t.wall - offset * microsPerSecond

/-- The UTC timestamp some seconds after an instant, if its date is in range. -/
def after? (t : Instant) (seconds : Int) : Option Timestamp :=
  let wall := t + seconds * microsPerSecond
  if inRange wall then some (ofInstant wall) else none

/-! ### Text -/

/-- A number with at least `width` digits. -/
def padded (width n : Nat) : String :=
  let ds := Nat.toDigits 10 n
  String.ofList (List.replicate (width - ds.length) '0' ++ ds)

/-- An offset in hours and minutes. -/
def offsetText (offset : Int) : String :=
  let minutes := offset.natAbs / 60
  (if offset < 0 then "-" else "+") ++ padded 2 (minutes / 60) ++ ":" ++ padded 2 (minutes % 60)

/-- Date and time, the fraction only where there is one. -/
def wallText (wall : Int) : String :=
  let date := Civil.ofDays (wall.fdiv microsPerDay)
  let rest := (wall.fmod microsPerDay).toNat
  let seconds := rest / 1000000
  let micros := rest % 1000000
  padded 4 date.year.toNat ++ "-" ++ padded 2 date.month ++ "-" ++ padded 2 date.day ++ "T" ++
    padded 2 (seconds / 3600) ++ ":" ++ padded 2 (seconds / 60 % 60) ++ ":" ++
    padded 2 (seconds % 60) ++ (if micros = 0 then "" else "." ++ padded 6 micros)

/-- Date, time and zone; UTC is written `Z`. -/
def text (t : Timestamp) : String :=
  wallText t.wall ++
    match t.offset with
    | none => ""
    | some offset => if offset = 0 then "Z" else offsetText offset

/-- Date, time and zone; UTC is written as an offset like any other. -/
def textWithOffset (t : Timestamp) : String :=
  wallText t.wall ++ (t.offset.map offsetText).getD ""

end Timestamp

end LoginGate
