/-!
# Finite binary64 numbers

A number of a JSON document that is no integer of 64 bits is held as a finite double: its word of
bits, of which the exponent field is not all ones.  Two such numbers are equal when their words
are, so zero and negative zero differ.  Beside the word stands its exact reading as
`significand * 2 ^ exponent`, on which every question about the value is answered in whole numbers.

Main definitions:

- `Binary64`: a finite double as its bits.
- `Binary64.ofFloat?`: the double of a computed float, unless that is infinite or no number.
- `Binary64.significand`, `Binary64.exponent`: the exact reading.
- `Binary64.toOffset`: the whole part, kept within the offsets of 64 bits.
-/

namespace GrammarDesk.Json

/-- A finite double, by its word of bits. -/
structure Binary64 where
  bits : UInt64
  isFinite : (bits >>> 52) &&& 0x7FF ≠ 0x7FF
deriving DecidableEq

namespace Binary64

/-- The double of a computed float; infinities and NaN have none. -/
def ofFloat? (x : Float) : Option Binary64 :=
  if h : (x.toBits >>> 52) &&& 0x7FF ≠ 0x7FF then some ⟨x.toBits, h⟩ else none

/-- The double with all bits clear. -/
def zero : Binary64 := ⟨0, by decide⟩

instance : Inhabited Binary64 := ⟨zero⟩

/-- The sign bit is set; negative zero has it too. -/
def isNegative (x : Binary64) : Bool := x.bits >>> 63 == 1

/-- The field of eleven bits below the sign. -/
def exponentField (x : Binary64) : Nat := ((x.bits >>> 52) &&& 0x7FF).toNat

/-- The field of fifty-two bits at the bottom. -/
def fractionField (x : Binary64) : Nat := (x.bits &&& 0xFFFFFFFFFFFFF).toNat

/-- The whole number whose product with `2 ^ exponent` is the magnitude. -/
def significand (x : Binary64) : Nat :=
  if x.exponentField = 0 then x.fractionField else Nat.pow 2 52 + x.fractionField

/-- The power of two by which the significand is scaled. -/
def exponent (x : Binary64) : Int := (max x.exponentField 1 : Nat) - 1075

/-- Zero of either sign. -/
def isZero (x : Binary64) : Bool := x.significand == 0

/-- The whole part of the magnitude. -/
def floor (x : Binary64) : Nat :=
  if 0 ≤ x.exponent then x.significand * Nat.pow 2 x.exponent.toNat
  else x.significand / Nat.pow 2 (-x.exponent).toNat

/-- The offset that a number names: negative numbers name the start, fractions are dropped, and
what is too large names the last offset. -/
def toOffset (x : Binary64) : UInt64 :=
  if x.isNegative then 0 else (min x.floor (Nat.pow 2 64 - 1)).toUInt64

end Binary64

end GrammarDesk.Json
