/-!
# Punycode

A label of a domain name with characters beyond ASCII is written with its ASCII characters first
and the others as a series of numbers: how many steps a counter over places and code points has to
go from one insertion to the next.  The numbers have digits of changing weight in base 36.

Main definitions:

- `Punycode.encode`: the ASCII form of a label, without the mark that announces it.
- `Punycode.decode?`: the label of an ASCII form.
-/

namespace GrammarDesk.Url.Punycode

/-! ## Digits and weights -/

/-- The digit of a value below 36: a letter, then a numeral. -/
def digit (n : Nat) : Char :=
  if n < 26 then Char.ofNat (97 + n) else Char.ofNat (22 + n)

/-- The value of a digit, in either case. -/
def valueOf? (c : Char) : Option Nat :=
  if 'a' ≤ c ∧ c ≤ 'z' then some (c.toNat - 97)
  else if 'A' ≤ c ∧ c ≤ 'Z' then some (c.toNat - 65)
  else if c.isDigit then some (c.toNat - 22)
  else none

/-- The least value of a last digit at a position, between 1 and 26. -/
def threshold (position bias : Nat) : Nat :=
  min 26 (max 1 (position - bias))

/-- Divides by 35 until the value is at most 455, counting in steps of 36. -/
def reduce (delta count : Nat) : Nat × Nat :=
  if 455 < delta then reduce (delta / 35) (count + 36) else (delta, count)
termination_by delta
decreasing_by omega

/-- The bias for the next number, from the last one and the number of characters so far. -/
def adapt (delta points : Nat) (first : Bool) : Nat :=
  let scaled := if first then delta / 700 else delta / 2
  let (delta, count) := reduce (scaled + scaled / points) 0
  count + 36 * delta / (delta + 38)

/-- The digits of a number; `budget` bounds how many. -/
def digits : Nat → Nat → Nat → Nat → List Char
  | 0, _, _, _ => []
  | budget + 1, bias, position, n =>
    let t := threshold position bias
    if n < t then [digit n]
    else digit (t + (n - t) % (36 - t)) ::
      digits budget bias (position + 36) ((n - t) / (36 - t))

/-! ## Encoding -/

/-- The state of the encoder: what is written, the steps since the last insertion, the bias, and
the characters handled. -/
structure Progress where
  written : List Char
  delta : Nat
  bias : Nat
  handled : Nat

/-- Passes one character of the label while the counter stands at a code point. -/
def Progress.pass (basic point : Nat) (p : Progress) (c : Char) : Progress :=
  if c.toNat < point then { p with delta := p.delta + 1 }
  else if c.toNat = point then
    { written := p.written ++ digits 40 p.bias 36 p.delta
      delta := 0
      bias := adapt p.delta (p.handled + 1) (p.handled == basic)
      handled := p.handled + 1 }
  else p

/-- Inserts the characters of one code point after the other; `last` is the counter's place. -/
def encodePoints (label : List Char) (basic : Nat) : Nat → Progress → List Nat → Progress
  | _, p, [] => p
  | last, p, point :: points =>
    let start := { p with delta := p.delta + (point - last) * (p.handled + 1) }
    let passed := label.foldl (Progress.pass basic point) start
    encodePoints label basic (point + 1) { passed with delta := passed.delta + 1 } points

/-- The ASCII form of a label. -/
def encode (label : List Char) : List Char :=
  let basic := label.filter (·.toNat < 128)
  let others := (label.map Char.toNat).filter (128 ≤ ·)
  let points := (others.mergeSort).eraseDups
  let head := if basic.isEmpty then [] else basic ++ ['-']
  head ++ (encodePoints label basic.length 128 ⟨[], 0, 72, basic.length⟩ points).written

/-! ## Decoding -/

/-- What all numbers and weights stay below. -/
def bound : Nat := Nat.pow 2 32

/-- The number that digits write, added to `sum`, and the digits behind it. -/
def number? (bias : Nat) : Nat → Nat → Nat → List Char → Option (Nat × List Char)
  | _, _, _, [] => none
  | position, weight, sum, c :: cs => do
    let value ← valueOf? c
    let sum := sum + value * weight
    let t := threshold position bias
    if bound ≤ weight || bound ≤ sum then none
    else if value < t then some (sum, cs)
    else number? bias (position + 36) (weight * (36 - t)) sum cs

/-- Inserts the characters that the digits write into the label; `budget` bounds how many. -/
def insertAll? : Nat → List Char → Nat → Nat → Nat → List Char → Option (List Char)
  | _, label, _, _, _, [] => some label
  | 0, _, _, _, _, _ :: _ => none
  | budget + 1, label, point, place, bias, c :: cs => do
    let (total, rest) ← number? bias 36 1 place (c :: cs)
    let size := label.length + 1
    let point := point + total / size
    if point < 0x110000 ∧ ¬(0xD800 ≤ point ∧ point < 0xE000) then
      let next := total % size
      insertAll? budget (label.insertIdx next (Char.ofNat point)) point (next + 1)
        (adapt (total - place) size (place == 0)) rest
    else none

/-- The label of an ASCII form.  The last hyphen separates the ASCII characters of the label from
the digits; there is none if the label has no ASCII characters. -/
def decode? (form : List Char) : Option (List Char) :=
  let digits := (form.reverse.takeWhile (· ≠ '-')).reverse
  let head := form.take (form.length - digits.length - 1)
  if form.any (128 ≤ ·.toNat) || form.head? = some '-' && head.isEmpty then none
  else insertAll? form.length head 128 0 72 digits

end GrammarDesk.Url.Punycode
