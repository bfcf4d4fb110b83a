import GrammarDesk.Json.Render

/-!
# Written values are not empty

Whatever a value is, some character stands for it.  A text that is empty is therefore no value
that was written, but a text of its own.

Main results:

- `layout_ne_empty`: a decimal has a point or an exponent.
- `Value.render_ne_empty`: the compact text of a value is not empty.
-/

namespace GrammarDesk.Json

/-! ## Numbers -/

/-- A natural number has a digit. -/
theorem decimal_ne_empty (n : Nat) : Text.decimal n ≠ "" := by
  rw [Text.decimal, ne_eq, String.ofList_eq_empty_iff]
  exact Nat.toDigits_ne_nil

/-- A decimal is written with a point or with an exponent. -/
theorem layout_ne_empty (digits : Nat) (power : Int) : layout digits power ≠ "" := by
  simp only [layout]
  -- one case for each form of a decimal: small, whole, broken, and with an exponent
  split
  · split
    · simp [String.append_eq_empty_iff]
    · split <;> simp [String.append_eq_empty_iff]
  · simp [String.append_eq_empty_iff]

theorem Binary64.render_ne_empty (x : Binary64) : x.render ≠ "" := by
  rw [Binary64.render]
  split
  · simp [String.append_eq_empty_iff]
  · simp [String.append_eq_empty_iff, layout_ne_empty]

/-- No number is written as the empty text. -/
theorem Number.render_ne_empty (n : Number) : n.render ≠ "" := by
  cases n with
  | natural n => exact decimal_ne_empty n.toNat
  | negSucc n => simp [Number.render, String.append_eq_empty_iff]
  | double x => exact x.render_ne_empty

/-! ## Values -/

/-- A text is written with its quotation marks. -/
theorem renderString_ne_empty (s : String) : renderString s ≠ "" := by
  simp [renderString, String.append_eq_empty_iff]

/-- A container is written with its opening mark. -/
theorem enclose_ne_empty {opening : String} (h : opening ≠ "") (closing : String)
    (parts : List String) : enclose opening closing parts ≠ "" := by
  simp [enclose, String.append_eq_empty_iff, h]

/-- The compact text of a value is not empty. -/
theorem Value.render_ne_empty (v : Value) : v.render ≠ "" := by
  cases v with
  | null => simp [Value.render]
  | bool b => cases b <;> simp [Value.render]
  | number n => exact n.render_ne_empty
  | string s => exact renderString_ne_empty s
  | array items => exact enclose_ne_empty (by decide) "]" (renderItems items)
  | object entries => exact enclose_ne_empty (by decide) "\x7d" (renderEntries entries)

end GrammarDesk.Json
