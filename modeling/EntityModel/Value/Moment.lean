/-!
# Moments

A calendar date, or a date with a time of day. Authors write them in documents; they are passed
through and shown, never computed with.
-/

namespace EntityModel

/-- A time of day, with the offset from universal time in seconds where one was written. -/
structure Clock where
  hour : Nat
  minute : Nat
  second : Nat
  micro : Nat
  offset : Option Int
  deriving DecidableEq, Repr

/-- A date, or a date with a time of day. -/
structure Moment where
  year : Nat
  month : Nat
  day : Nat
  clock : Option Clock
  deriving DecidableEq, Repr

namespace Moment

/-- A number in decimal, with zeros in front up to a width. -/
def padded (width n : Nat) : String :=
  let digits := toString n
  String.ofList (List.replicate (width - digits.length) '0') ++ digits

/-- An offset from universal time: hours and minutes, and seconds when there are any. -/
def shownOffset (seconds : Int) : String :=
  let n := seconds.natAbs
  let rest := n % 60
  (if seconds < 0 then "-" else "+") ++ padded 2 (n / 3600) ++ ":" ++ padded 2 (n / 60 % 60) ++
    (if rest = 0 then "" else ":" ++ padded 2 rest)

/-- The time of day: a fraction has six digits and is left out when it is zero. -/
def shownClock (c : Clock) : String :=
  padded 2 c.hour ++ ":" ++ padded 2 c.minute ++ ":" ++ padded 2 c.second ++
    (if c.micro = 0 then "" else "." ++ padded 6 c.micro) ++
    (match c.offset with | none => "" | some seconds => shownOffset seconds)

/-- The written form: year, month and day, then the time of day if there is one. -/
def shown (m : Moment) : String :=
  padded 4 m.year ++ "-" ++ padded 2 m.month ++ "-" ++ padded 2 m.day ++
    (match m.clock with | none => "" | some c => " " ++ shownClock c)

def daysInMonth (year month : Nat) : Nat :=
  if month = 2 then
    if (year % 4 = 0 ∧ year % 100 ≠ 0) ∨ year % 400 = 0 then 29 else 28
  else if month = 4 ∨ month = 6 ∨ month = 9 ∨ month = 11 then 30 else 31

/-- A span of seconds as a literal: whole days, and the seconds of a day beyond them. -/
def quotedSpan (seconds : Int) : String :=
  let days := seconds / 86400
  let rest := seconds % 86400
  let parts := (if days = 0 then [] else [s!"days={days}"]) ++
    (if rest = 0 then [] else [s!"seconds={rest}"])
  "datetime.timedelta(" ++ (if parts.isEmpty then "0" else ", ".intercalate parts) ++ ")"

/-- What is wrong with the parts of a time of day. -/
def clockProblem? (c : Clock) : Option String :=
  if 23 < c.hour then some "hour must be in 0..23"
  else if 59 < c.minute then some "minute must be in 0..59"
  else if 59 < c.second then some "second must be in 0..59"
  else none

/-- What is wrong with an offset: it has to be shorter than a day. -/
def offsetProblem? (seconds : Int) : Option String :=
  if seconds.natAbs < 86400 then none
  else some ("offset must be a timedelta strictly between -timedelta(hours=24) and " ++
    "timedelta(hours=24), not " ++ quotedSpan seconds ++ ".")

/-- What is wrong with the parts of a moment, if it does not exist. -/
def problem? (m : Moment) : Option String :=
  (m.clock >>= (·.offset) >>= offsetProblem?) <|>
    if m.year = 0 || 9999 < m.year then some s!"year {m.year} is out of range"
    else if m.month = 0 || 12 < m.month then some "month must be in 1..12"
    else if m.day = 0 || daysInMonth m.year m.month < m.day then
      some "day is out of range for month"
    else m.clock >>= clockProblem?

end Moment

end EntityModel
