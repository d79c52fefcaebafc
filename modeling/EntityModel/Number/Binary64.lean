/-!
# Binary64 numbers

A 64-bit floating-point number in decoded form, so that it can be compared, truncated and written
in exact integer arithmetic. A finite number is `± significand · 2 ^ exponent`; the form is normal
when the significand has 53 bits, or fewer at the least exponent.
-/

namespace EntityModel

/-- A 64-bit floating-point number. -/
inductive Binary64 where
  | finite (negative : Bool) (significand : Nat) (exponent : Int)
  | infinite (negative : Bool)
  | nan
  deriving DecidableEq, Repr

namespace Binary64

/-- The least exponent of a finite number. -/
def minExponent : Int := -1074

/-- The greatest exponent of a finite number. -/
def maxExponent : Int := 971

def zero (negative : Bool) : Binary64 := .finite negative 0 minExponent

/-- The quotient rounded to a whole number, a half going to the even neighbour. -/
def roundHalfEven (num den : Nat) : Nat :=
  let whole := num / den
  let twice := 2 * (num % den)
  if twice < den then whole
  else if den < twice then whole + 1
  else whole + whole % 2

/-- `num / den` in units of `2 ^ exponent`, rounded. -/
def scaled (num den : Nat) (exponent : Int) : Nat :=
  if 0 ≤ exponent then roundHalfEven num (den * Nat.pow 2 exponent.toNat)
  else roundHalfEven (num * Nat.pow 2 (-exponent).toNat) den

/-- The number nearest to `± num / den`. -/
def ofRatio (negative : Bool) (num den : Nat) : Binary64 :=
  if num = 0 then zero negative
  else
    -- with this exponent the quotient has 53 bits, or 54 when the estimate is one too low
    let estimate : Int := max minExponent ((num.log2 : Int) - den.log2 - 53)
    let exponent := if scaled num den estimate < Nat.pow 2 53 then estimate else estimate + 1
    let significand := scaled num den exponent
    let normal : Nat × Int :=
      if significand < Nat.pow 2 53 then (significand, exponent)
      else (significand / 2, exponent + 1)
    if maxExponent < normal.2 then .infinite negative else .finite negative normal.1 normal.2

/-- The number nearest to a whole number. -/
def ofInt (i : Int) : Binary64 := ofRatio (i < 0) i.natAbs 1

/-- The number nearest to `± digits · 10 ^ exponent`. Exponents far outside the range of finite
numbers are answered without writing the power of ten out. -/
def ofDecimal (negative : Bool) (digits : Nat) (exponent : Int) : Binary64 :=
  let magnitude : Int := exponent + (Nat.toDigits 10 digits).length
  if digits = 0 || magnitude < -400 then zero negative
  else if 400 < magnitude then .infinite negative
  else if 0 ≤ exponent then ofRatio negative (digits * Nat.pow 10 exponent.toNat) 1
  else ofRatio negative digits (Nat.pow 10 (-exponent).toNat)

/-- A finite number as a numerator over a power of two. -/
def fraction? : Binary64 → Option (Int × Nat)
  | .finite negative significand exponent =>
    let sign : Int := if negative then -1 else 1
    if 0 ≤ exponent then some (sign * (significand * Nat.pow 2 exponent.toNat : Nat), 1)
    else some (sign * significand, Nat.pow 2 (-exponent).toNat)
  | _ => none

def ofFraction (num : Int) (den : Nat) : Binary64 := ofRatio (num < 0) num.natAbs den

/-- The sum of two numbers, rounded. -/
def add : Binary64 → Binary64 → Binary64
  | .nan, _ | _, .nan => .nan
  | .infinite a, .infinite b => if a = b then .infinite a else .nan
  | .infinite a, _ | _, .infinite a => .infinite a
  | x, y => match x.fraction?, y.fraction? with
    | some (a, b), some (c, d) => ofFraction (a * d + c * b) (b * d)
    | _, _ => .nan

/-- A number taken some times, rounded. -/
def times : Binary64 → Nat → Binary64
  | .finite negative significand exponent, n =>
    match (finite negative significand exponent).fraction? with
    | some (a, b) => ofRatio negative (a.natAbs * n) b
    | none => .nan
  | .infinite negative, n => if n = 0 then .nan else .infinite negative
  | .nan, _ => .nan

def neg : Binary64 → Binary64
  | .finite negative significand exponent => .finite (!negative) significand exponent
  | .infinite negative => .infinite (!negative)
  | .nan => .nan

/-- Whether a number is neither of the two zeros. -/
def isNonzero : Binary64 → Bool
  | .finite _ significand _ => significand != 0
  | _ => true

/-- Whether a number is finite and whole. -/
def isWhole (x : Binary64) : Bool :=
  match x.fraction? with
  | some (num, den) => num.natAbs % den == 0
  | none => false

/-- The whole part of a finite number, towards zero. -/
def truncate? (x : Binary64) : Option Int :=
  x.fraction?.map fun (num, den) => num.tdiv den

/-- How two numbers compare, where nothing compares with a number that is not one. -/
def compare? : Binary64 → Binary64 → Option Ordering
  | .nan, _ | _, .nan => none
  | .infinite a, .infinite b => some (compare b.toNat a.toNat)
  | .infinite a, _ => some (if a then .lt else .gt)
  | _, .infinite b => some (if b then .gt else .lt)
  | x, y => do
    let (a, c) ← x.fraction?
    let (b, d) ← y.fraction?
    return compare (a * d) (b * c)

/-- How a number compares with a whole number, exactly. -/
def compareInt? (x : Binary64) (i : Int) : Option Ordering :=
  match x with
  | .nan => none
  | .infinite negative => some (if negative then .lt else .gt)
  | .finite .. => x.fraction?.map fun (num, den) => compare num (i * den)

end Binary64

end EntityModel
