import GrammarDesk.Json.Binary64
import GrammarDesk.Text.Decimal

/-!
# The shortest decimal that reads back

Every positive double is the rounding of an interval of reals around it; the ends belong to the
interval exactly when the significand is even.  Among the decimals `digits * 10 ^ power` in that
interval this module finds one with the fewest digits, and of two such the nearer to the double.
It walks the grids of powers of ten from coarse to fine, and looks on each at the two points next
to the double: if any point of a grid lies in the interval, one of these two does.

Main definitions:

- `Interval`: a double with the ends of its rounding interval, scaled to whole numbers.
- `Interval.nearest?`: the better of the two grid points next to the double, if one is inside.
- `shortestDecimal`: the first grid with a hit, and the point hit.
- `layout`: a decimal as text, positional or with an exponent.
-/

namespace GrammarDesk.Json

/-! ## The rounding interval -/

/-- A double and its rounding interval: three whole numbers over the common unit
`numerator / denominator`, and whether the ends belong to the interval. -/
structure Interval where
  low : Nat
  value : Nat
  high : Nat
  numerator : Nat
  denominator : Nat
  closed : Bool

/-- The interval of a double in units of a quarter of its last place.  Below a power of two the
neighbour is at half the distance. -/
def Binary64.interval (x : Binary64) : Interval where
  low := if x.fractionField = 0 ∧ 1 < x.exponentField
    then 4 * x.significand - 1 else 4 * x.significand - 2
  value := 4 * x.significand
  high := 4 * x.significand + 2
  numerator := Nat.pow 2 (x.exponent - 2).toNat
  denominator := Nat.pow 2 (2 - x.exponent).toNat
  closed := x.significand % 2 == 0

/-- The decimal `digits * 10 ^ power` lies in the interval. -/
def Interval.contains (i : Interval) (digits : Nat) (power : Int) : Bool :=
  let point := digits * Nat.pow 10 power.toNat * i.denominator
  let unit := i.numerator * Nat.pow 10 (-power).toNat
  if i.closed then i.low * unit ≤ point && point ≤ i.high * unit
  else i.low * unit < point && point < i.high * unit

/-- The better of the two points of the grid `10 ^ power` next to the double, if one of them lies
in the interval: the nearer one, and at equal distance the even one. -/
def Interval.nearest? (i : Interval) (power : Int) : Option Nat :=
  let step := Nat.pow 10 power.toNat * i.denominator
  let target := i.value * (i.numerator * Nat.pow 10 (-power).toNat)
  let below := target / step
  let above := below + 1
  match i.contains below power, i.contains above power with
  | true, true =>
    let missing := target - below * step
    let excess := above * step - target
    if missing < excess then some below
    else if excess < missing then some above
    else if below % 2 = 0 then some below else some above
  | true, false => some below
  | false, true => some above
  | false, false => none

/-! ## From coarse to fine -/

/-- Tries `count` grids, each ten times finer than the one before. -/
def Interval.refine (i : Interval) : Nat → Int → Nat × Int
  | 0, power => (i.value, power)
  | count + 1, power =>
    match i.nearest? power with
    | some digits => (digits, power)
    | none => i.refine count (power - 1)

/-- A power of ten not below the double: eight is below ten, and ten is below sixteen. -/
def Binary64.coarsePower (x : Binary64) : Int :=
  let top := x.exponent + (x.significand.log2 + 1)
  if 0 ≤ top then top / 3 + 1 else top / 4 + 1

/-- The digits and the power of ten of the shortest decimal that reads back as a positive
double. -/
def Binary64.shortestDecimal (x : Binary64) : Nat × Int :=
  x.interval.refine (x.coarsePower + 345).toNat x.coarsePower

/-! ## Layout -/

/-- The decimal exponents that are written without an exponent part. -/
def isPositional (exponent : Int) : Bool := -5 ≤ exponent && exponent < 16

/-- A decimal as text.  A positional number has a point and a digit after it; any other has one
digit before the point, no point when it is alone, and the sign of its exponent. -/
def layout (digits : Nat) (power : Int) : String :=
  let ds := Nat.toDigits 10 digits
  let exponent := power + ds.length - 1
  if isPositional exponent then
    if exponent < 0 then
      "0." ++ String.ofList (List.replicate (-exponent - 1).toNat '0' ++ ds)
    else if 0 ≤ power then
      String.ofList (ds ++ List.replicate power.toNat '0') ++ ".0"
    else
      let whole := exponent.toNat + 1
      String.ofList (ds.take whole) ++ "." ++ String.ofList (ds.drop whole)
  else
    let mantissa := match ds with
      | [d] => String.ofList [d]
      | d :: rest => String.ofList (d :: '.' :: rest)
      | [] => ""
    let sign := if exponent < 0 then "-" else "+"
    mantissa ++ "e" ++ sign ++ Text.decimal exponent.natAbs

/-- The text of a double: its sign and the shortest decimal that reads back. -/
def Binary64.render (x : Binary64) : String :=
  let sign := if x.isNegative then "-" else ""
  if x.isZero then sign ++ "0.0"
  else
    let (digits, power) := x.shortestDecimal
    sign ++ layout digits power

end GrammarDesk.Json
