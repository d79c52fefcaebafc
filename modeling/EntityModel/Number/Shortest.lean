import EntityModel.Number.Binary64

/-!
# Shortest decimal digits

The fewest decimal digits that read back as a given binary64 number, and of those the nearest to
it. A number of digits fixes a grid of decimals; if any point of the grid reads back, so does one
of the two grid points next to the number, so only those two are tried.
-/

namespace EntityModel.Binary64

/-- A positive rational number as numerator and denominator. -/
structure Ratio where
  num : Nat
  den : Nat

namespace Ratio

/-- The product with a power of two. -/
def scale2 (n : Nat) (exponent : Int) : Ratio :=
  if 0 ≤ exponent then ⟨n * Nat.pow 2 exponent.toNat, 1⟩ else ⟨n, Nat.pow 2 (-exponent).toNat⟩

/-- The product with a power of ten. -/
def scale10 (n : Nat) (exponent : Int) : Ratio :=
  if 0 ≤ exponent then ⟨n * Nat.pow 10 exponent.toNat, 1⟩ else ⟨n, Nat.pow 10 (-exponent).toNat⟩

/-- Whether one ratio is at most another. -/
def le (a b : Ratio) : Bool := a.num * b.den ≤ b.num * a.den

/-- Whether one ratio is less than another. -/
def lt (a b : Ratio) : Bool := a.num * b.den < b.num * a.den

end Ratio

/-- The reals that round to a positive number: the bounds, and whether they belong to it. -/
structure Neighbourhood where
  low : Ratio
  high : Ratio
  closed : Bool

/-- Whether a ratio rounds to the number. -/
def Neighbourhood.holds (h : Neighbourhood) (r : Ratio) : Bool :=
  if h.closed then h.low.le r && r.le h.high else h.low.lt r && r.lt h.high

/-- The reals that round to `significand · 2 ^ exponent`. Below a power of two the spacing is half
of that above it. -/
def neighbourhood (significand : Nat) (exponent : Int) : Neighbourhood where
  low :=
    if significand = Nat.pow 2 52 && minExponent < exponent
    then .scale2 (4 * significand - 1) (exponent - 2)
    else .scale2 (2 * significand - 1) (exponent - 1)
  high := .scale2 (2 * significand + 1) (exponent - 1)
  closed := significand % 2 == 0

/-- The number of digits before the point of a ratio, which is negative or zero for one below a
tenth: the `k` with `10 ^ (k - 1) ≤ r < 10 ^ k`. -/
def decimalExponent (r : Ratio) : Int :=
  if r.den ≤ r.num then (Nat.toDigits 10 (r.num / r.den)).length
  else
    let rec search : Nat → Nat → Int
      | 0, zeros => -zeros
      | fuel + 1, zeros =>
        if r.den ≤ r.num * Nat.pow 10 (zeros + 1) then -zeros else search fuel (zeros + 1)
    search 400 0

/-- Decimal digits and the power of ten that they count. -/
structure Digits where
  digits : Nat
  exponent : Int

/-- The grid point next to `r` with the given number of digits that reads back, if there is one. -/
def nearestOnGrid? (h : Neighbourhood) (r : Ratio) (k : Int) (count : Nat) : Option Digits :=
  let exponent := k - count
  let unit := Ratio.scale10 1 exponent
  let below := (r.num * unit.den) / (r.den * unit.num)
  -- twice the distance of `r` from `below`, in units of the grid, against one
  let rest := 2 * ((r.num * unit.den) % (r.den * unit.num))
  let nearBelow := rest < r.den * unit.num || (rest == r.den * unit.num && below % 2 == 0)
  let fits (n : Nat) : Bool := h.holds (.scale10 n exponent)
  match fits below, fits (below + 1) with
  | true, true => some ⟨if nearBelow then below else below + 1, exponent⟩
  | true, false => some ⟨below, exponent⟩
  | false, true => some ⟨below + 1, exponent⟩
  | false, false => none

/-- The fewest digits that read back as `significand · 2 ^ exponent`. -/
def shortest (significand : Nat) (exponent : Int) : Digits :=
  let r := Ratio.scale2 significand exponent
  let h := neighbourhood significand exponent
  let k := decimalExponent r
  let grids := (List.range 17).filterMap fun i => nearestOnGrid? h r k (i + 1)
  grids.headD ⟨0, 0⟩

/-! ### Written form -/

/-- The digits without the zeros at the end, and the power of ten that they then count. -/
def withoutTrailingZeros (digits : List Char) (exponent : Int) : List Char × Int :=
  let kept := (digits.reverse.dropWhile (· == '0')).reverse
  (kept, exponent + (digits.length - kept.length : Nat))

/-- Digits before and after the point, and the point itself; a whole number keeps one zero after
it. Exponents from -4 to 15 are written out, others in scientific form with two digits at least. -/
def positional (d : Digits) : List Char :=
  let (digits, exponent) := withoutTrailingZeros (Nat.toDigits 10 d.digits) d.exponent
  let point : Int := digits.length + exponent
  if -4 < point && point ≤ 16 then
    if point ≤ 0 then '0' :: '.' :: List.replicate (-point).toNat '0' ++ digits
    else if digits.length ≤ point.toNat then
      digits ++ List.replicate (point.toNat - digits.length) '0' ++ ['.', '0']
    else digits.take point.toNat ++ '.' :: digits.drop point.toNat
  else
    let head := digits.take 1 ++ (if digits.length ≤ 1 then [] else '.' :: digits.drop 1)
    let power := point - 1
    let width := Nat.toDigits 10 power.natAbs
    head ++ ['e', if power < 0 then '-' else '+'] ++
      (if width.length < 2 then '0' :: width else width)

/-- The written form of a number. -/
def shown : Binary64 → String
  | .nan => "nan"
  | .infinite negative => if negative then "-inf" else "inf"
  | .finite negative significand exponent =>
    let body := if significand = 0 then ['0', '.', '0']
      else positional (shortest significand exponent)
    String.ofList (if negative then '-' :: body else body)

end EntityModel.Binary64
