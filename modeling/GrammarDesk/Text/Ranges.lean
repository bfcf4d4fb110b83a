/-!
# Tables of characters

A property of characters is listed as ranges of code points, and what characters stand for as rows
of a code point and a text.  Both kinds of table are sorted, so that halving finds a character.
A table of texts is long and therefore written as a text itself: a number before a colon is the
code point of the row that comes next, and each row after it is that of the following code point;
a row joins its code points by full stops, all in hexadecimal digits.

Main definitions:

- `rowUpTo?`: the last row of a sorted table that starts at or before a code point.
- `Ranges`, `Ranges.contains`: a property of characters.
- `Forms`, `Forms.ofText`, `Forms.get?`: what characters stand for.
-/

namespace GrammarDesk.Text

/-! ## Searching -/

/-- Halves the rows from `low` on and before `high` until one is left. -/
def rowBetween? {row : Type} (start : row → Nat) (rows : Array row) (n low high : Nat) :
    Option row :=
  if low + 1 < high then
    let middle := (low + high) / 2
    if rows[middle]?.any (start · ≤ n) then rowBetween? start rows n middle high
    else rowBetween? start rows n low middle
  else rows[low]?
termination_by high - low
decreasing_by all_goals omega

/-- The last row of a sorted table that starts at or before a code point, or the first of all. -/
def rowUpTo? {row : Type} (start : row → Nat) (rows : Array row) (n : Nat) : Option row :=
  rowBetween? start rows n 0 rows.size

/-! ## Properties -/

/-- A property of characters: ranges of code points, both ends included, in increasing order. -/
abbrev Ranges := Array (Nat × Nat)

/-- A character whose code point is in one of the ranges. -/
def Ranges.contains (ranges : Ranges) (c : Char) : Bool :=
  (rowUpTo? (·.1) ranges c.toNat).any fun (low, high) => low ≤ c.toNat && c.toNat ≤ high

/-! ## Forms -/

/-- What characters stand for: rows of a code point and a text, in increasing order. -/
abbrev Forms := Array (Nat × List Char)

/-- The text that a character stands for. -/
def Forms.get? (forms : Forms) (c : Char) : Option (List Char) :=
  ((rowUpTo? (·.1) forms c.toNat).filter (·.1 == c.toNat)).map (·.2)

/-- The state of reading a table: the rows so far and the text of the present one, the last first;
the code point of the present row, and the number whose digits are being read. -/
structure FormReading where
  rows : List (Nat × List Char)
  source : Nat
  form : List Char
  number : Option Nat

/-- The value of a hexadecimal digit in capitals. -/
def capitalDigit? (c : Char) : Option Nat :=
  if c.isDigit then some (c.toNat - 48)
  else if 'A' ≤ c ∧ c ≤ 'F' then some (c.toNat - 55)
  else none

/-- Reads one character of a table. -/
def FormReading.step (r : FormReading) (c : Char) : FormReading :=
  match capitalDigit? c, r.number with
  | some d, number => { r with number := some (16 * number.getD 0 + d) }
  | none, none => r
  | none, some n =>
    if c = ':' then { r with source := n, number := none }
    else if c = '.' then { r with form := Char.ofNat n :: r.form, number := none }
    else
      { rows := (r.source, (Char.ofNat n :: r.form).reverse) :: r.rows
        source := r.source + 1
        form := []
        number := none }

/-- The table that a text writes; a blank follows its last row. -/
def Forms.ofText (s : String) : Forms :=
  (s.toList.foldl FormReading.step ⟨[], 0, [], none⟩).rows.reverse.toArray

end GrammarDesk.Text
