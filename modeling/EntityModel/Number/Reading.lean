import EntityModel.Number.Binary64
import EntityModel.Text.Blank
import EntityModel.Text.Casing
import EntityModel.Text.IdentifierTable

/-!
# Numbers written in text

Whole and fractional numbers as authors write them in text: white space around the number is
skipped, the digits may be of any script, and single underscores may stand between digits.
-/

namespace EntityModel.Number

open Text

/-- The digits at the start, single underscores between them skipped, and what follows. -/
def digitRun : List Char → List Nat × List Char
  | [] => ([], [])
  | c :: rest => match decimalDigit? c with
    | none => ([], c :: rest)
    | some d => match rest with
      | '_' :: next :: more =>
        if (decimalDigit? next).isSome then
          let (ds, after) := digitRun (next :: more)
          (d :: ds, after)
        else ([d], rest)
      | rest =>
        let (ds, after) := digitRun rest
        (d :: ds, after)

/-- The number that decimal digits write. -/
def ofDigits (digits : List Nat) : Nat := digits.foldl (fun n d => 10 * n + d) 0

def signed : List Char → Bool × List Char
  | '-' :: rest => (true, rest)
  | '+' :: rest => (false, rest)
  | cs => (false, cs)

/-- The whole number that a text writes. -/
def readWhole? (s : String) : Option Int :=
  let (negative, body) := signed (trim s.toList)
  match digitRun body with
  | (d :: ds, []) =>
    let n : Int := ofDigits (d :: ds)
    some (if negative then -n else n)
  | _ => none

/-- The value of a digit in some base up to sixteen. -/
def digitIn? (base : Nat) (c : Char) : Option Nat :=
  let n := c.toLower.toNat
  let d :=
    if c.isDigit then n - 0x30
    else if 'a' ≤ c.toLower && c.toLower ≤ 'f' then n - 0x57
    else base
  if d < base then some d else none

/-- The number that digits in a base write, if there are any. -/
def readDigitsIn? (base : Nat) (cs : List Char) : Option Nat :=
  if cs.isEmpty then none
  else (cs.mapM (digitIn? base)).map (·.foldl (fun n d => base * n + d) 0)

/-- The power of ten after a mantissa: none written counts as zero. -/
def readExponent? : List Char → Option Int
  | [] => some 0
  | e :: rest =>
    if e == 'e' || e == 'E' then
      let (negative, body) := signed rest
      match digitRun body with
      | (d :: ds, []) =>
        let n : Int := ofDigits (d :: ds)
        some (if negative then -n else n)
      | _ => none
    else none

/-- The number with a point or an exponent that characters write. -/
def readDecimal? (negative : Bool) (cs : List Char) : Option Binary64 := do
  let (whole, rest) := digitRun cs
  let (part, rest) := match rest with
    | '.' :: after => digitRun after
    | rest => ([], rest)
  if whole.isEmpty && part.isEmpty then none
  else
    let exponent ← readExponent? rest
    return .ofDecimal negative (ofDigits (whole ++ part)) (exponent - part.length)

/-- The number that a text writes; infinities and the number that is none may be written out. -/
def readReal? (s : String) : Option Binary64 :=
  let (negative, body) := signed (trim s.toList)
  match String.ofList (body.map Char.toLower) with
  | "inf" | "infinity" => some (.infinite negative)
  | "nan" => some .nan
  | _ => readDecimal? negative body

end EntityModel.Number
