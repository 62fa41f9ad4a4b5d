import LoginGate.Time.Timestamp
import LoginGate.Numeral.Binary64
import LoginGate.Text.Digit
import LoginGate.Numeral.Read

/-!
# Reading timestamps

A timestamp is written as a date with a time and perhaps a zone, as a date alone, which means its
midnight, or as a number of seconds since 1970 in UTC; a number beyond `2 * 10 ^ 10` in size counts
milliseconds.

## Main definitions

* `Timestamp.Fault` : why there is no timestamp.
* `Timestamp.ofText`, `Timestamp.ofNumber`, `Timestamp.ofFloat` : the readers.
-/

namespace LoginGate.Timestamp

/-- Why there is no timestamp. -/
inductive Fault where
  /-- The text is neither a date, nor a date with time, nor a number in range. -/
  | notADate
  /-- The number or the year is out of range. -/
  | outOfRange
  deriving DecidableEq, Repr

/-- A number of exactly `count` digits, after the number `n` read before. -/
def digits? : (count n : Nat) → List Char → Option (Nat × List Char)
  | 0, n, cs => some (n, cs)
  | count + 1, n, c :: rest =>
    if isAsciiDigit c then digits? count (n * 10 + (c.toNat - 48)) rest else none
  | _ + 1, _, [] => none

/-- A given character. -/
def char? (expected : Char) : List Char → Option (List Char)
  | c :: rest => if c = expected then some rest else none
  | [] => none

/-- A year, month and day. -/
def date? (cs : List Char) : Option (Civil × List Char) := do
  let (year, cs) ← digits? 4 0 cs
  let cs ← char? '-' cs
  let (month, cs) ← digits? 2 0 cs
  let cs ← char? '-' cs
  let (day, cs) ← digits? 2 0 cs
  let date : Civil := ⟨year, month, day⟩
  if date.isValid then some (date, cs) else none

/-- The first six digits of a fraction as microseconds. -/
def microsOf (ds : List Char) : Nat :=
  Numeral.digitsValue ((ds ++ List.replicate 6 '0').take 6)

/-- Perhaps seconds with perhaps a fraction, in microseconds. -/
def seconds? (cs : List Char) : Option (Nat × List Char) :=
  match cs with
  | ':' :: rest => do
    let (seconds, rest) ← digits? 2 0 rest
    if 59 < seconds then none
    else
      match rest with
      | c :: tail =>
        if c = '.' ∨ c = ',' then
          let ds := tail.takeWhile isAsciiDigit
          if ds.isEmpty then none
          else some (seconds * 1000000 + microsOf ds, tail.dropWhile isAsciiDigit)
        else some (seconds * 1000000, rest)
      | [] => some (seconds * 1000000, [])
  | _ => some (0, cs)

/-- A time of day, in microseconds. -/
def time? (cs : List Char) : Option (Nat × List Char) := do
  let (hour, cs) ← digits? 2 0 cs
  let cs ← char? ':' cs
  let (minute, cs) ← digits? 2 0 cs
  if 23 < hour ∨ 59 < minute then none
  else
    let (micros, cs) ← seconds? cs
    some ((hour * 3600 + minute * 60) * 1000000 + micros, cs)

/-- The hours and minutes of an offset, with or without a colon, up to the end. -/
def offset? (negative : Bool) (cs : List Char) : Option Int := do
  let (hours, cs) ← digits? 2 0 cs
  let cs := (char? ':' cs).getD cs
  let (minutes, cs) ← digits? 2 0 cs
  let seconds := hours * 3600 + minutes * 60
  if 59 < minutes ∨ 86400 ≤ seconds ∨ !cs.isEmpty then none
  else some (Numeral.signed negative seconds)

/-- A zone up to the end: nothing, `Z`, or a sign with an offset. -/
def zone? : List Char → Option (Option Int)
  | [] => some none
  | c :: rest =>
    if c = 'Z' ∨ c = 'z' then (if rest.isEmpty then some (some 0) else none)
    else if c = '+' then (offset? false rest).map some
    else if c = '-' ∨ c = '\u2212' then (offset? true rest).map some
    else none

/-- A date with a time and perhaps a zone, up to the end. -/
def dateTime? (cs : List Char) : Option Timestamp := do
  let (date, cs) ← date? cs
  match cs with
  | c :: rest =>
    if c = 'T' ∨ c = 't' ∨ c = ' ' ∨ c = '_' then
      let (micros, rest) ← time? rest
      let zone ← zone? rest
      some ⟨date.toDays * microsPerDay + micros, zone⟩
    else none
  | [] => none

/-- A date alone. -/
def dateAlone? (cs : List Char) : Option Timestamp := do
  let (date, cs) ← date? cs
  if cs.isEmpty then some ⟨date.toDays * microsPerDay, none⟩ else none

/-- The size from which a number counts milliseconds. -/
def millisecondMark : Int := 20000000000

/-- A timestamp whose date is in range. -/
def checked (t : Timestamp) : Except Fault Timestamp :=
  if inRange t.wall then .ok t else .error .outOfRange

/-- A whole number of seconds or milliseconds. -/
def ofNumber (n : Int) : Except Fault Timestamp :=
  if millisecondMark < n.natAbs then checked (ofInstant (n * 1000))
  else checked (ofInstant (n * microsPerSecond))

/-- A quotient rounded to the nearest whole number, halves upwards. -/
def roundHalfUp (num : Int) (den : Nat) : Int := (2 * num + den).fdiv (2 * den)

/-- A number of seconds or milliseconds with a fraction, rounded to the microsecond. -/
def ofFloat (x : Binary64) : Except Fault Timestamp :=
  match x.toRat? with
  | none => .error .outOfRange
  | some q =>
    let seconds :=
      if (millisecondMark : Rat) < q ∨ q < -(millisecondMark : Rat) then q / 1000 else q
    let micros := seconds * 1000000
    checked (ofInstant (roundHalfUp micros.num micros.den))

/-- The greatest number that is read as a count of seconds or milliseconds. -/
def maxNumber : Nat := 0x8000000000000000

/-- A number in a text: a sign, digits, and perhaps a point with perhaps more digits. -/
def ofNumeric? (cs : List Char) : Option (Except Fault Timestamp) := do
  let (negative, cs) := Numeral.takeSign cs
  let whole := cs.takeWhile isAsciiDigit
  let n := Numeral.digitsValue whole
  if whole.isEmpty || maxNumber ≤ n then none
  else
    match cs.dropWhile isAsciiDigit with
    | [] => some (ofNumber (Numeral.signed negative n))
    | '.' :: fraction =>
      if fraction.all isAsciiDigit then
        some (ofFloat (.ofDecimal negative (Numeral.digitsValue (whole ++ fraction))
          (-(fraction.length : Int))))
      else none
    | _ => none

/-- A timestamp in a text.  The year 0 can be written but is out of range; a number out of range is
no date. -/
def ofText (text : String) : Except Fault Timestamp :=
  let cs := text.toList
  match dateTime? cs with
  | some t => checked t
  | none =>
    match ofNumeric? cs with
    | some (.ok t) => .ok t
    | _ =>
      match dateAlone? cs with
      | some t => checked t
      | none => .error .notADate

end LoginGate.Timestamp
