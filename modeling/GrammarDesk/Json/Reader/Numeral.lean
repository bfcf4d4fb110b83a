import GrammarDesk.Json.Reader.Cursor

/-!
# Numbers in a JSON text

An integer that fits in 64 bits stays an integer.  In every other number the digits are gathered
while they fit in 64 bits; the later ones only count: before the point they raise the power of
ten, behind it they are dropped.  An exponent beyond 31 bits makes zero or a number too large.

Main definitions:

- `Scan.number`: a number whose sign has been read.
- `Scan.skipNumber`: the same syntax, without a value.
-/

namespace GrammarDesk.Json.Scan

/-! ## Gathering digits -/

/-- The value of a digit. -/
def digitValue (c : Char) : Nat := c.toNat - 48

/-- Appends digits to a number while the result stays below the bound; what is left begins with
the digit that would not fit. -/
def gather (bound : Nat) (value : Nat) : List Char → Nat × List Char
  | [] => (value, [])
  | c :: cs =>
    if value * 10 + digitValue c < bound then gather bound (value * 10 + digitValue c) cs
    else (value, c :: cs)

/-- The first value that does not fit in 64 bits. -/
def wordBound : Nat := Nat.pow 2 64

/-- The first exponent that does not fit in 31 bits. -/
def exponentBound : Nat := Nat.pow 2 31

/-- The double of gathered digits and a power of ten. -/
def scaled (negative : Bool) (digits : Nat) (power : Int) : Scan Number :=
  match scaleDecimal? negative digits.toUInt64 power with
  | some x => pure (.double x)
  | none => failHere .numberOutOfRange

/-- Zero as a double, with its sign. -/
def signedZero (negative : Bool) : Scan Number := scaled negative 0 0

/-- The exponent part, from its letter on. -/
def exponentPart (negative : Bool) (digits : Nat) (power : Int) : Scan Number := do
  advance
  let sign ← peek
  let lowered := sign == some '-'
  if sign == some '+' || lowered then advance
  match ← peek with
  | none => failHere .endInValue
  | some c =>
    if c.isDigit then
      let start ← get
      let run ← takeWhile Char.isDigit
      let (exponent, rest) := gather exponentBound 0 run
      if rest.isEmpty then
        scaled negative digits (if lowered then power - exponent else power + exponent)
      else if digits ≠ 0 && !lowered then
        failAt (start.offset + (run.length - rest.length) + 1) .numberOutOfRange
      else
        signedZero negative
    else
      failAtNext .invalidNumber

/-- What may follow the digits behind a point. -/
def afterFraction (negative : Bool) (digits : Nat) (power : Int) : Scan Number := do
  match ← peek with
  | some 'e' | some 'E' => exponentPart negative digits power
  | _ => scaled negative digits power

/-- The fraction, from its point on. -/
def fractionPart (negative : Bool) (digits : Nat) (power : Int) : Scan Number := do
  advance
  let run ← takeWhile Char.isDigit
  if run.isEmpty then
    match ← peek with
    | none => failAtNext .endInValue
    | some _ => failAtNext .invalidNumber
  else
    let (value, rest) := gather wordBound digits run
    afterFraction negative value (power - (run.length - rest.length))

/-- What may follow the digits of an integer that fits. -/
def afterInteger (negative : Bool) (digits : Nat) : Scan Number := do
  match ← peek with
  | some '.' => fractionPart negative digits 0
  | some 'e' | some 'E' => exponentPart negative digits 0
  | _ =>
    if negative then
      if h : 0 < digits ∧ digits ≤ Nat.pow 2 63 then
        pure (.negSucc ⟨digits - 1, by omega⟩)
      else
        scaled true digits 0
    else
      pure (.natural digits.toUInt64)

/-- What may follow the digits of an integer that does not fit; `power` of them were left out. -/
def afterLongInteger (negative : Bool) (digits : Nat) (power : Nat) : Scan Number := do
  match ← peek with
  | some '.' => fractionPart negative digits power
  | some 'e' | some 'E' => exponentPart negative digits power
  | _ => scaled negative digits power

/-! ## Numbers -/

/-- A number, from its first digit on. -/
def number (negative : Bool) : Scan Number := do
  match ← peek with
  | none => failHere .endInValue
  | some '0' =>
    advance
    match ← peek with
    | some c => if c.isDigit then failAtNext .invalidNumber else afterInteger negative 0
    | none => afterInteger negative 0
  | some c =>
    if c.isDigit then
      let run ← takeWhile Char.isDigit
      let (value, rest) := gather wordBound 0 run
      if rest.isEmpty then afterInteger negative value
      else afterLongInteger negative value rest.length
    else
      failAtNext .invalidNumber

/-! ## Numbers that are not kept -/

/-- Skips an exponent part, from its letter on. -/
def skipExponent : Scan Unit := do
  advance
  let sign ← peek
  if sign == some '+' || sign == some '-' then advance
  match ← peek with
  | some c =>
    if c.isDigit then
      let _ ← takeWhile Char.isDigit
    else
      failAtNext .invalidNumber
  | none => failHere .invalidNumber

/-- Skips a fraction and what follows it, from its point on. -/
def skipFraction : Scan Unit := do
  advance
  let run ← takeWhile Char.isDigit
  if run.isEmpty then failAtNext .invalidNumber
  match ← peek with
  | some 'e' | some 'E' => skipExponent
  | _ => pure ()

/-- Skips what may follow the digits of an integer. -/
def skipAfterInteger : Scan Unit := do
  match ← peek with
  | some '.' => skipFraction
  | some 'e' | some 'E' => skipExponent
  | _ => pure ()

/-- Skips a number, from its first digit on. -/
def skipNumber : Scan Unit := do
  match ← peek with
  | none => failHere .invalidNumber
  | some '0' =>
    advance
    match ← peek with
    | some c => if c.isDigit then failAtNext .invalidNumber else skipAfterInteger
    | none => skipAfterInteger
  | some c =>
    if c.isDigit then
      let _ ← takeWhile Char.isDigit
      skipAfterInteger
    else
      failAtNext .invalidNumber

end GrammarDesk.Json.Scan
