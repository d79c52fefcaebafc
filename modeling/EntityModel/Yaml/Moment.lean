import EntityModel.Yaml.Cursor

/-!
# Written moments

A date as year, month and day with hyphens between them; a time of day may follow it, after a `T` or
after white space, and may end in an offset from universal time or in `Z`.
-/

namespace EntityModel.Yaml

/-- The number that a run of digits of the given lengths writes, and what follows it. -/
def readDigits? (least most : Nat) (cs : List Char) : Option (Nat × List Char) :=
  let digits := (cs.take most).takeWhile Char.isDigit
  if digits.length < least then none
  else some (digits.foldl (fun n d => 10 * n + (d.toNat - 0x30)) 0, cs.drop digits.length)

def after? (c : Char) : List Char → Option (List Char)
  | [] => none
  | d :: rest => if c == d then some rest else none

/-- The microseconds that the digits after the point write, and what follows them. -/
def readFraction (cs : List Char) : Nat × List Char :=
  match after? '.' cs with
  | none => (0, cs)
  | some rest =>
    let digits := rest.takeWhile Char.isDigit
    let six := digits.take 6 ++ List.replicate (6 - digits.length) '0'
    (six.foldl (fun n d => 10 * n + (d.toNat - 0x30)) 0, rest.drop digits.length)

/-- The offset at the end of a time of day, in seconds. -/
def readOffset? (cs : List Char) : Option Int :=
  match cs.dropWhile isSpace with
  | ['Z'] => some 0
  | sign :: rest => do
    let (hours, rest) ← readDigits? 1 2 rest
    let (minutes, rest) ← if rest.isEmpty then some (0, []) else readDigits? 2 2 (← after? ':' rest)
    let seconds : Int := 3600 * hours + 60 * minutes
    if !rest.isEmpty then none
    else if sign == '-' then some (-seconds)
    else if sign == '+' then some seconds
    else none
  | [] => none

/-- A time of day; its parts may be out of range. -/
def readClock? (cs : List Char) : Option Clock := do
  let (hour, rest) ← readDigits? 1 2 cs
  let (minute, rest) ← readDigits? 2 2 (← after? ':' rest)
  let (second, rest) ← readDigits? 2 2 (← after? ':' rest)
  let (micro, rest) := readFraction rest
  if rest.isEmpty then return ⟨hour, minute, second, micro, none⟩
  else return ⟨hour, minute, second, micro, some (← readOffset? rest)⟩

/-- A moment as it is written; its parts may be out of range. -/
def readMoment? (cs : List Char) : Option Moment := do
  let (year, rest) ← readDigits? 4 4 cs
  let (month, rest) ← readDigits? 1 2 (← after? '-' rest)
  let (day, rest) ← readDigits? 1 2 (← after? '-' rest)
  match rest with
  | [] => return ⟨year, month, day, none⟩
  | c :: more =>
    if c == 'T' || c == 't' then return ⟨year, month, day, some (← readClock? more)⟩
    else if isSpace c then return ⟨year, month, day, some (← readClock? (more.dropWhile isSpace))⟩
    else none

/-- Whether a text is read as a moment without being told so: a date alone has ten characters. -/
def isMoment (cs : List Char) : Bool :=
  match readMoment? cs with
  | some m => m.clock.isSome || cs.length == 10
  | none => false

end EntityModel.Yaml
