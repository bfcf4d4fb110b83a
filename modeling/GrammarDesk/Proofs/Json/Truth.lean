import Mathlib
import GrammarDesk.Json.Value

/-!
# Values that count as false

Six values count as false: null, the truth value false, zero as a natural number and as a double of
either sign, and the empty text.  No other number is zero, for the magnitude of a double vanishes
only when all its bits below the sign are clear.

Main definitions:

- `Value.falsy`: the six values.

Main results:

- `Binary64.isZero_iff`: a double is zero when no bit is set, or only the sign.
- `Value.isTruthy_eq_false_iff`: the values that count as false.
-/

namespace GrammarDesk.Json

/-! ## Zeros -/

namespace Binary64

/-- Zero with the sign bit set. -/
def negativeZero : Binary64 := ⟨0x8000000000000000, by decide⟩

/-- The exponent is what stands in eleven bits above the fraction. -/
theorem exponentField_eq (x : Binary64) : x.exponentField = x.bits.toNat / 2 ^ 52 % 2 ^ 11 := by
  have hmask : x.exponentField = (x.bits.toNat >>> 52) &&& (2 ^ 11 - 1) := by
    simp [exponentField]
  rw [hmask, Nat.and_two_pow_sub_one_eq_mod, Nat.shiftRight_eq_div_pow]

/-- The fraction is what stands in the lowest fifty-two bits. -/
theorem fractionField_eq (x : Binary64) : x.fractionField = x.bits.toNat % 2 ^ 52 := by
  have hmask : x.fractionField = x.bits.toNat &&& (2 ^ 52 - 1) := by
    simp [fractionField]
  rw [hmask, Nat.and_two_pow_sub_one_eq_mod]

/-- The magnitude vanishes only with both of its fields, for a double with an exponent has a
significand beyond its fraction. -/
theorem isZero_iff_fields (x : Binary64) :
    x.isZero = true ↔ x.exponentField = 0 ∧ x.fractionField = 0 := by
  rw [isZero, beq_iff_eq, significand]
  by_cases hexponent : x.exponentField = 0
  · simp [hexponent]
  · have hpos : 0 < Nat.pow 2 52 := by decide
    simp [hexponent]

/-- A double is zero when no bit is set, or only the sign. -/
theorem isZero_iff (x : Binary64) : x.isZero = true ↔ x = zero ∨ x = negativeZero := by
  have hbound := x.bits.toNat_lt
  have heq : ∀ y : Binary64, x = y ↔ x.bits.toNat = y.bits.toNat := by
    intro y
    cases x
    cases y
    simp [UInt64.toNat_inj]
  rw [isZero_iff_fields, exponentField_eq, fractionField_eq, heq zero, heq negativeZero]
  -- with no exponent and no fraction, all that is left of 64 bits is the sign
  simp only [zero, negativeZero, UInt64.reduceToNat]
  omega

end Binary64

/-- Zero is a natural number, a double, and a double with a sign. -/
theorem Number.isZero_iff (n : Number) :
    n.isZero = true ↔
      n = .natural 0 ∨ n = .double .zero ∨ n = .double .negativeZero := by
  cases n with
  | natural n => simp [isZero]
  | negSucc n => simp [isZero]
  | double x => simp [isZero, Binary64.isZero_iff]

/-! ## Values -/

namespace Value

/-- The values that count as false. -/
def falsy : List Value :=
  [.null, .bool false, .number (.natural 0), .number (.double .zero),
    .number (.double .negativeZero), .string ""]

/-- All values but these count as true. -/
theorem isTruthy_eq_false_iff (v : Value) : v.isTruthy = false ↔ v ∈ falsy := by
  cases v with
  | null => simp [isTruthy, falsy]
  | bool b => simp [isTruthy, falsy]
  | number n => simp [isTruthy, falsy, Number.isZero_iff]
  | string s => simp [isTruthy, falsy]
  | array items => simp [isTruthy, falsy]
  | object entries => simp [isTruthy, falsy]

end Value

end GrammarDesk.Json
