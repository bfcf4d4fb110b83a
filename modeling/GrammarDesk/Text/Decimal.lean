/-!
# Numbers in decimal

Main definitions:

- `decimal`: the digits of a number.
- `padLeft`, `padRight`: a number in a column of a given width.
- `readUnsigned?`: an unsigned 64-bit number, with an optional plus sign.
-/

namespace GrammarDesk.Text

/-! ## Writing -/

/-- The digits of a number, without leading zeros. -/
def decimal (n : Nat) : String := String.ofList (Nat.toDigits 10 n)

/-- A run of spaces. -/
def spaces (n : Nat) : String := String.ofList (List.replicate n ' ')

/-- A number in a column of a width, with spaces before it. -/
def padLeft (width n : Nat) : String := spaces (width - (decimal n).length) ++ decimal n

/-- A number in a column of a width, with spaces behind it. -/
def padRight (width n : Nat) : String := decimal n ++ spaces (width - (decimal n).length)

/-! ## Reading -/

/-- The number that a list of ASCII digits writes after the digits read so far. -/
def digitsValue? (value : Nat) : List Char → Option Nat
  | [] => some value
  | c :: cs => if c.isDigit then digitsValue? (value * 10 + (c.toNat - 48)) cs else none

/-- A decimal number below 2^64: an optional plus sign, then ASCII digits, at least one. -/
def readUnsigned? (s : String) : Option UInt64 :=
  let digits := match s.toList with
    | '+' :: rest => rest
    | cs => cs
  if digits.isEmpty then none
  else match digitsValue? 0 digits with
    | some n => if n < Nat.pow 2 64 then some n.toUInt64 else none
    | none => none

end GrammarDesk.Text
