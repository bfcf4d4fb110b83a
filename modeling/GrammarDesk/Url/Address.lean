import GrammarDesk.Url.Fault
import GrammarDesk.Text.Blank
import GrammarDesk.Text.Decimal

/-!
# Internet addresses in URLs

A host whose last label is a number is an address of four bytes: up to four numbers between dots,
each decimal, octal after a zero, or hexadecimal after `0x`; the last number fills the bytes that
are left.  A host between brackets is an address of eight pieces of sixteen bits between colons;
one run of zero pieces may be left out, and the last two pieces may be written as four bytes.

Main definitions:

- `endsInNumber`, `ipv4?`: recognising and reading an address of four bytes.
- `ipv6?`: reading an address of eight pieces.
-/

namespace GrammarDesk.Url

/-! ## Numbers -/

/-- The value of a digit in a base of at most 16. -/
def digitIn? (base : Nat) (c : Char) : Option Nat :=
  let value :=
    if c.isDigit then c.toNat - 48
    else if 'a' ≤ c ∧ c ≤ 'f' then c.toNat - 87
    else if 'A' ≤ c ∧ c ≤ 'F' then c.toNat - 55
    else 16
  if value < base then some value else none

/-- The number that digits in a base write, after a value. -/
def numberIn? (base value : Nat) : List Char → Option Nat
  | [] => some value
  | c :: cs => do numberIn? base (value * base + (← digitIn? base c)) cs

/-- A number of an address: hexadecimal, octal or decimal. -/
def addressNumber? (cs : List Char) : Option Nat :=
  match cs with
  | [] => none
  | '0' :: 'x' :: rest => numberIn? 16 0 rest
  | '0' :: 'X' :: rest => numberIn? 16 0 rest
  | '0' :: c :: rest => numberIn? 8 0 (c :: rest)
  | cs => numberIn? 10 0 cs

/-! ## Four bytes -/

/-- The labels of a host without an empty last one. -/
def labelsOf (host : String) : List (List Char) :=
  let labels := Text.splitOn '.' host.toList
  if labels.getLast? = some [] then labels.dropLast else labels

/-- The host is an address of four bytes, or tries to be one. -/
def endsInNumber (host : String) : Bool :=
  match (labelsOf host).getLast? with
  | none => false
  | some last =>
    (!last.isEmpty && last.all Char.isDigit) || (addressNumber? last).isSome

/-- An address of four bytes, between dots. -/
def renderIpv4 (n : Nat) : String :=
  ".".intercalate ([n >>> 24, (n >>> 16) % 256, (n >>> 8) % 256, n % 256].map Text.decimal)

/-- The bytes that numbers before the last one fill, from the highest on. -/
def leadingBytes (numbers : List Nat) : Nat :=
  numbers.zipIdx.foldr (fun (n, i) total => n <<< (8 * (3 - i)) + total) 0

/-- An address of four bytes in its usual form. -/
def ipv4? (host : String) : Option String := do
  let numbers ← (labelsOf host).mapM addressNumber?
  let last ← numbers.getLast?
  let leading := numbers.dropLast
  if 4 < numbers.length || leading.any (255 < ·) || 1 <<< (8 * (4 - leading.length)) ≤ last then
    none
  else some (renderIpv4 (leadingBytes leading + last))

/-! ## Eight pieces -/

/-- A byte of an address in decimal, without leading zeros. -/
def byte? (cs : List Char) : Option Nat := do
  if cs.isEmpty || 3 < cs.length || (1 < cs.length && cs.head? = some '0') then none
  else
    let n ← numberIn? 10 0 cs
    if n ≤ 255 then some n else none

/-- The last two pieces, written as four bytes. -/
def bytePieces? (cs : List Char) : Option (List Nat) := do
  match ← (Text.splitOn '.' cs).mapM byte? with
  | [a, b, c, d] => some [a * 256 + b, c * 256 + d]
  | _ => none

/-- A piece of one to four hexadecimal digits. -/
def piece? (cs : List Char) : Option Nat :=
  if cs.isEmpty || 4 < cs.length then none else numberIn? 16 0 cs

/-- The pieces of a part of an address between colons; only the last part may end in bytes. -/
def pieces? (isLast : Bool) (cs : List Char) : Option (List Nat) := do
  if cs.isEmpty then some []
  else
    let parts := Text.splitOn ':' cs
    let last := parts.getLast?.getD []
    if isLast && last.contains '.' then
      return (← parts.dropLast.mapM piece?) ++ (← bytePieces? last)
    else
      parts.mapM piece?

/-- The parts before and behind the first two colons in a row. -/
def splitDouble : List Char → Option (List Char × List Char)
  | ':' :: ':' :: rest => some ([], rest)
  | c :: rest => (splitDouble rest).map fun (before, behind) => (c :: before, behind)
  | [] => none

/-- The eight pieces of an address. -/
def ipv6Pieces? (cs : List Char) : Option (List Nat) := do
  match splitDouble cs with
  | none =>
    let all ← pieces? true cs
    if all.length = 8 then some all else none
  | some (before, behind) =>
    let before ← pieces? false before
    let behind ← pieces? true behind
    let count := before.length + behind.length
    if count ≤ 7 then some (before ++ List.replicate (8 - count) 0 ++ behind) else none

/-- The start and the length of the longest run of zeros, the first of equals; a run has to be at
least two long. -/
def longestZeros (pieces : List Nat) : Option (Nat × Nat) :=
  let runs := (List.range pieces.length).map fun i =>
    (i, ((pieces.drop i).takeWhile (· = 0)).length)
  runs.foldl (fun best run =>
    if run.2 < 2 || best.any (run.2 ≤ ·.2) then best else some run) none

/-- Pieces between colons. -/
def renderPieces (pieces : List Nat) : String :=
  ":".intercalate (pieces.map fun n => String.ofList (Nat.toDigits 16 n))

/-- An address of eight pieces in its usual form, without brackets. -/
def ipv6? (cs : List Char) : Option String := do
  let all ← ipv6Pieces? cs
  match longestZeros all with
  | none => some (renderPieces all)
  | some (start, count) =>
    some (renderPieces (all.take start) ++ "::" ++ renderPieces (all.drop (start + count)))

end GrammarDesk.Url
