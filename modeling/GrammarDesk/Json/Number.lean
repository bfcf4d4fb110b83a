import GrammarDesk.Json.Shortest

/-!
# JSON numbers

A number is a natural number below 2^64, a negative integer from -2^63 on, or a finite double.
The three kinds stay apart: `1` and `1.0` are different numbers, and `-0` is the double `-0.0`.

Main definitions:

- `Number`: the three kinds.
- `Number.render`: the text of a number.
- `Number.isZero`, `Number.toOffset`: what the tree readers ask of a number.
- `scaleDecimal?`: the double of a decimal, from at most 64 bits of digits and a power of ten.
-/

namespace GrammarDesk.Json

/-- A number of a JSON document. -/
inductive Number where
  /-- A natural number of 64 bits. -/
  | natural (n : UInt64)
  /-- The negative integer `-(n + 1)`. -/
  | negSucc (n : Fin (Nat.pow 2 63))
  /-- Any other number, rounded to a double. -/
  | double (x : Binary64)
deriving DecidableEq

namespace Number

instance : Inhabited Number := ⟨.natural 0⟩

/-- Zero of any kind and sign. -/
def isZero : Number → Bool
  | .natural n => n == 0
  | .negSucc _ => false
  | .double x => x.isZero

/-- The offset that a number names; below zero that is the start. -/
def toOffset : Number → UInt64
  | .natural n => n
  | .negSucc _ => 0
  | .double x => x.toOffset

/-- The text of a number. -/
def render : Number → String
  | .natural n => Text.decimal n.toNat
  | .negSucc n => "-" ++ Text.decimal (n.val + 1)
  | .double x => x.render

end Number

/-! ## Reading decimals

A decimal is read as an integer of 64 bits and a power of ten.  The integer is rounded to a
double, and the double is multiplied or divided by the power of ten, which is rounded itself.
Powers beyond 308 are no doubles: a division is then done in steps of 308, and a product is too
large. -/

/-- The power of ten as a double, for exponents up to 308. -/
def powerOfTen (n : Nat) : Float := Float.ofScientific 1 false n

/-- Divides by `10 ^ count`, three hundred and eight places at a time; `steps` bounds the number
of full steps. -/
def divideByPower : Nat → Float → Nat → Float
  | 0, x, _ => x
  | steps + 1, x, count =>
    if count ≤ 308 then x / powerOfTen count
    else if x == 0 then x
    else divideByPower steps (x / powerOfTen 308) (count - 308)

/-- The double `± digits * 10 ^ power`; too large a number has none. -/
def scaleDecimal? (negative : Bool) (digits : UInt64) (power : Int) : Option Binary64 :=
  let x := digits.toFloat
  let scaled :=
    if 0 ≤ power then
      if power ≤ 308 then some (x * powerOfTen power.toNat)
      else if x == 0 then some x else none
    else some (divideByPower 5 x power.natAbs)
  scaled.bind fun y => Binary64.ofFloat? (if negative then -y else y)

end GrammarDesk.Json
