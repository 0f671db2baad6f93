import MailDispatch.Decimal.Numeral

/-!
# Double-precision numbers and their decimal text

A finite double is an integer mantissa times a power of two. Two conversions connect it with
decimal notation, both in exact integer arithmetic: `ofDecimal` rounds a decimal to the nearest
double, ties to the even mantissa, and `text` writes the fewest digits that `ofDecimal` rounds back
to the same double. Positional notation is used for decimal exponents from -4 to 15; outside, the
exponent is written with a sign and at least two digits.
-/

namespace MailDispatch.Decimal

/-- A power of two. -/
def pow2 (n : Nat) : Nat := Nat.pow 2 n

/-- A power of ten. -/
def pow10 (n : Nat) : Nat := Nat.pow 10 n

/-- A double-precision number. A finite one is `± mantissa * 2 ^ exponent`, with the mantissa below
`2 ^ 53`, and at least `2 ^ 52` unless the exponent is the least one, -1074. -/
inductive Binary64 where
  | nan
  | infinite (negative : Bool)
  | finite (negative : Bool) (mantissa : Nat) (exponent : Int)
  deriving DecidableEq, Repr

namespace Binary64

/-- The least exponent of a finite double. -/
def minExponent : Int := -1074

/-- The greatest exponent of a finite double. -/
def maxExponent : Int := 971

/-- Zero, of either sign. -/
def zero (negative : Bool) : Binary64 := .finite negative 0 minExponent

/-- Zero of either sign counts as nothing; every other number, NaN included, as something. -/
def isZero : Binary64 → Bool
  | .finite _ 0 _ => true
  | _ => false

/-- The quotient rounded to the nearest integer, a tie to the even one. -/
def roundDiv (num den : Nat) : Nat :=
  let q := num / den
  let r := num % den
  if 2 * r < den then q else if den < 2 * r then q + 1 else q + q % 2

/-- The numerator and denominator of `num / den * 2 ^ (-e)`. -/
def scaled (num den : Nat) (e : Int) : Nat × Nat :=
  if 0 ≤ e then (num, den * pow2 e.toNat) else (num * pow2 (-e).toNat, den)

/-- The exponent for which the mantissa of a positive quotient lies in `[2 ^ 52, 2 ^ 53)`, but not
below the least exponent. -/
def exponentFor (num den : Nat) : Int :=
  let guess : Int := (num.log2 : Int) - den.log2 - 52
  let (n, d) := scaled num den guess
  let e := if n / d < pow2 52 then guess - 1 else guess
  if e < minExponent then minExponent else e

/-- The double nearest to a positive quotient. -/
def ofQuotient (negative : Bool) (num den : Nat) : Binary64 :=
  let e := exponentFor num den
  let (n, d) := scaled num den e
  let m := roundDiv n d
  let (m, e) := if m = pow2 53 then (pow2 52, e + 1) else (m, e)
  if maxExponent < e then .infinite negative else .finite negative m e

/-- The double nearest to `± significand * 10 ^ exponent`. Exponents far outside the range of
doubles are decided by the size alone. -/
def ofDecimal (negative : Bool) (significand : Nat) (exponent : Int) : Binary64 :=
  let size : Int := (digits significand).length + exponent
  if significand = 0 then zero negative
  else if 310 < size then .infinite negative
  else if size < -330 then zero negative
  else if 0 ≤ exponent then ofQuotient negative (significand * pow10 exponent.toNat) 1
  else ofQuotient negative significand (pow10 (-exponent).toNat)

/-! ## The shortest digits -/

/-- The reals that round to `mantissa * 2 ^ exponent`, as numerators over one denominator: the
value, the two ends of the interval, and whether the ends belong to it. -/
structure Rounding where
  value : Nat
  low : Nat
  high : Nat
  denominator : Nat
  closed : Bool

/-- The interval of reals that round to the double. The lower neighbour of a power of two is twice
as near as the upper one. -/
def rounding (mantissa : Nat) (exponent : Int) : Rounding :=
  let below := if mantissa = pow2 52 ∧ minExponent < exponent then 1 else 2
  let up := pow2 exponent.toNat
  ⟨4 * mantissa * up, (4 * mantissa - below) * up, (4 * mantissa + 2) * up,
    4 * pow2 (-exponent).toNat, mantissa % 2 == 0⟩

/-- Whether `num / den` lies in the interval. -/
def Rounding.holds (r : Rounding) (num den : Nat) : Bool :=
  let x := num * r.denominator
  if r.closed then r.low * den ≤ x && x ≤ r.high * den else r.low * den < x && x < r.high * den

/-- The decimal exponent `p` with `10 ^ p ≤ num / den < 10 ^ (p + 1)`: below one, the least power of
ten that lifts the quotient to one decides, and otherwise its number of digits. -/
def decimalExponent (num den : Nat) : Int :=
  if num < den then
    Int.negOfNat (((List.range 400).find? fun k ↦ den ≤ num * pow10 k).getD 0)
  else ((digits (num / den)).length : Int) - 1

/-- A decimal: a significand and the exponent of the power of ten that it is multiplied with. -/
abbrev GridPoint := Nat × Int

/-- The point nearest to the value among the two neighbours of it on the grid of step
`10 ^ exponent` that round to the double. -/
def Rounding.onGrid? (r : Rounding) (exponent : Int) : Option GridPoint :=
  let up := pow10 exponent.toNat
  let down := pow10 (-exponent).toNat
  let floor := r.value * down / (r.denominator * up)
  let rest := r.value * down % (r.denominator * up)
  let lowIn := r.holds (floor * up) down
  let highIn := r.holds ((floor + 1) * up) down
  let preferLow := 2 * rest < r.denominator * up ∨
    (2 * rest = r.denominator * up ∧ floor % 2 = 0)
  if lowIn && (preferLow || !highIn) then some (floor, exponent)
  else if highIn then some (floor + 1, exponent)
  else none

/-- The shortest decimal that rounds to `mantissa * 2 ^ exponent`. -/
def shortest (mantissa : Nat) (exponent : Int) : GridPoint :=
  let r := rounding mantissa exponent
  let p := decimalExponent r.value r.denominator
  ((List.range 18).findSome? fun k : Nat ↦ r.onGrid? (p - k)).getD (0, 0)

/-! ## The text -/

/-- Drops the zeros at the end of a significand, raising the exponent accordingly. -/
def dropZeros (ds : List Char) (exponent : Int) : List Char × Int :=
  let kept := (ds.reverse.dropWhile (· == '0')).reverse
  (kept, exponent + ((ds.length : Int) - kept.length))

/-- The digits with the point after `point` of them, zeros filled in where digits are missing. -/
def positional (ds : List Char) (point : Int) : List Char :=
  if point ≤ 0 then '0' :: '.' :: (List.replicate (-point).toNat '0' ++ ds)
  else
    let whole := ds.take point.toNat
    let rest := ds.drop point.toNat
    whole ++ List.replicate (point.toNat - whole.length) '0' ++
      '.' :: (if rest.isEmpty then ['0'] else rest)

/-- The digits as one digit, a fraction if there are more, and a power of ten. -/
def scientific (ds : List Char) (power : Int) : List Char :=
  let exponent := digits power.natAbs
  ds.take 1 ++ (if ds.length ≤ 1 then [] else '.' :: ds.drop 1) ++
    'e' :: (if power < 0 then '-' else '+') ::
    (List.replicate (2 - exponent.length) '0' ++ exponent)

/-- The text of a positive finite double. -/
def magnitudeText (mantissa : Nat) (exponent : Int) : List Char :=
  let (n, e) := shortest mantissa exponent
  let (ds, e) := dropZeros (digits n) e
  let point := (ds.length : Int) + e
  if -4 < point ∧ point ≤ 16 then positional ds point else scientific ds (point - 1)

/-- The shortest text that reads back as the same number. -/
def text : Binary64 → String
  | .nan => "nan"
  | .infinite negative => if negative then "-inf" else "inf"
  | .finite negative mantissa exponent =>
    let magnitude := if mantissa = 0 then ['0', '.', '0'] else magnitudeText mantissa exponent
    String.ofList (if negative then '-' :: magnitude else magnitude)

end Binary64

end MailDispatch.Decimal
