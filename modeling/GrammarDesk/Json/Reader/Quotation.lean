import GrammarDesk.Json.Reader.Cursor

/-!
# Texts in a JSON text

A quoted text ends at the next quote that follows no backslash.  Controls may not stand in it.  A
character beyond the first 65536 may be written as two escapes in a row, a leading and a trailing
surrogate; neither may stand alone.

Main definitions:

- `Scan.quotation`: a quoted text, from behind its opening quote on.
- `Scan.skipQuotation`: the same, where the text is not kept and surrogates are not paired.
-/

namespace GrammarDesk.Json.Scan

/-! ## Escapes -/

/-- The value of a hexadecimal digit in either case. -/
def hexValue? (c : Char) : Option Nat :=
  if c.isDigit then some (c.toNat - 48)
  else if 'a' ≤ c ∧ c ≤ 'f' then some (c.toNat - 87)
  else if 'A' ≤ c ∧ c ≤ 'F' then some (c.toNat - 55)
  else none

/-- The value of four hexadecimal digits. -/
def hexValues? : List Char → Option Nat
  | [a, b, c, d] => do
    let a ← hexValue? a
    let b ← hexValue? b
    let c ← hexValue? c
    let d ← hexValue? d
    return ((a * 16 + b) * 16 + c) * 16 + d
  | _ => none

/-- Four hexadecimal digits.  Anything else in the next four bytes is blamed on all four. -/
def hexEscape : Scan Nat := fun cursor =>
  match hexValues? (cursor.rest.take 4) with
  | some n => .ok (n, ⟨cursor.rest.drop 4, cursor.offset + 4⟩)
  | none =>
    let left := Text.byteSize cursor.rest
    if 4 ≤ left then .error ⟨.invalidEscape, cursor.offset + 4⟩
    else .error ⟨.endInString, cursor.offset + left⟩

/-- The character behind a backslash, for the escapes of one letter. -/
def letterEscape? (c : Char) : Option Char :=
  if c = '"' || c = '\\' || c = '/' then some c
  else if c = 'b' then some '\x08'
  else if c = 'f' then some '\x0c'
  else if c = 'n' then some '\n'
  else if c = 'r' then some '\r'
  else if c = 't' then some '\t'
  else none

/-- A leading surrogate. -/
def isLeading (n : Nat) : Bool := 0xD800 ≤ n && n ≤ 0xDBFF

/-- A trailing surrogate. -/
def isTrailing (n : Nat) : Bool := 0xDC00 ≤ n && n ≤ 0xDFFF

/-- The given character, which continues a leading surrogate. -/
def continues (expected : Char) : Scan Unit := do
  match ← peek with
  | none => failHere .endInString
  | some c => if c = expected then advance else failAtNext .unpairedSurrogate

/-- The character of a numeric escape, from behind its letter on. -/
def numericEscape : Scan Char := do
  let n ← hexEscape
  if isTrailing n then failHere .loneSurrogate
  else if isLeading n then
    continues '\\'
    continues 'u'
    let m ← hexEscape
    if isTrailing m then
      pure (Char.ofNat ((n - 0xD800) * 0x400 + (m - 0xDC00) + 0x10000))
    else
      failHere .loneSurrogate
  else
    pure (Char.ofNat n)

/-- The character of an escape, from behind its backslash on. -/
def escape : Scan Char := do
  match ← peek with
  | none => failHere .endInString
  | some c =>
    match letterEscape? c with
    | some x =>
      advance
      pure x
    | none =>
      if c = 'u' then
        advance
        numericEscape
      else
        failAtNext .invalidEscape

/-! ## Quoted texts -/

/-- The rest of a quoted text; `read` holds the characters read so far, the last one first, and
the first number bounds the characters left. -/
def quotationFrom : Nat → List Char → Scan String
  | 0, _ => failHere .endInString
  | left + 1, read => do
    match ← peek with
    | none => failHere .endInString
    | some c =>
      if c = '"' then
        advance
        pure (String.ofList read.reverse)
      else if c = '\\' then
        advance
        let x ← escape
        quotationFrom left (x :: read)
      else if c.toNat < 0x20 then
        failAtNext .controlCharacter
      else
        advance
        quotationFrom left (c :: read)

/-- A quoted text, from behind its opening quote on. -/
def quotation : Scan String := do
  let cursor ← get
  quotationFrom (cursor.rest.length + 1) []

/-- The rest of a quoted text that is not kept. -/
def skipQuotationFrom : Nat → Scan Unit
  | 0 => failHere .endInString
  | left + 1 => do
    match ← peek with
    | none => failHere .endInString
    | some c =>
      if c = '"' then
        advance
      else if c = '\\' then
        advance
        match ← peek with
        | none => failHere .endInString
        | some e =>
          if (letterEscape? e).isSome then
            advance
            skipQuotationFrom left
          else if e = 'u' then
            advance
            let _ ← hexEscape
            skipQuotationFrom left
          else
            failAtNext .invalidEscape
      else if c.toNat < 0x20 then
        failHere .controlCharacter
      else
        advance
        skipQuotationFrom left

/-- Skips a quoted text, from behind its opening quote on. -/
def skipQuotation : Scan Unit := do
  let cursor ← get
  skipQuotationFrom (cursor.rest.length + 1)

end GrammarDesk.Json.Scan
