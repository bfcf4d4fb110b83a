import GrammarDesk.Json.Reader.Numeral
import GrammarDesk.Json.Reader.Quotation

/-!
# JSON documents

A document is one value with blanks around it.  Lists and objects may stand at most 127 deep.  Of
equal keys in an object the last one counts.  A value that is not kept is only skipped: it may be
nested deeper, its numbers may be of any size, and its surrogates need not be paired.

Main definitions:

- `Scan.value`: a value.
- `Scan.skipValue`: a value that is not kept.
- `Scan.whole`: a reader for a text that holds nothing else.
- `parse`: the value that a text writes.
-/

namespace GrammarDesk.Json

namespace Scan

/-! ## Lists and objects -/

/-- Whether another item follows in a list; `first` before any item. -/
def nextItem (first : Bool) : Scan Bool := do
  match ← skipBlanks with
  | none => failAtNext .endInList
  | some ']' => pure false
  | some c =>
    if first then pure true
    else if c = ',' then
      advance
      match ← skipBlanks with
      | some ']' => failAtNext .trailingComma
      | some _ => pure true
      | none => failAtNext .endInValue
    else
      failAtNext .expectedCommaOrBracket

/-- Whether another key follows in an object; `first` before any key. -/
def nextKey (first : Bool) : Scan Bool := do
  match ← skipBlanks with
  | none => failAtNext .endInObject
  | some '\x7d' => pure false
  | some c =>
    if first then
      if c = '"' then pure true else failAtNext .keyNotString
    else if c = ',' then
      advance
      match ← skipBlanks with
      | some '"' => pure true
      | some '\x7d' => failAtNext .trailingComma
      | some _ => failAtNext .keyNotString
      | none => failAtNext .endInValue
    else
      failAtNext .expectedCommaOrBrace

/-- The colon between a key and its value. -/
def colon : Scan Unit := do
  match ← skipBlanks with
  | some ':' => advance
  | some _ => failAtNext .expectedColon
  | none => failAtNext .endInObject

/-- The depth left inside a container; the outermost of too many containers is refused. -/
def enter (depth : Nat) : Scan Nat :=
  if depth ≤ 1 then failAtNext .tooDeep
  else do
    advance
    pure (depth - 1)

/-- The rest of a word of the language, for the value that it stands for. -/
def constant {α : Type} (letters : String) (result : α) : Scan α := do
  advance
  word letters.toList
  pure result

/-! ## Values -/

mutual

/-- A value; `budget` bounds the steps and `depth` the containers. -/
def value (budget depth : Nat) : Scan Value :=
  match budget with
  | 0 => failHere .tooDeep
  | budget + 1 => do
    match ← skipBlanks with
    | none => failAtNext .endInValue
    | some 'n' => constant "ull" .null
    | some 't' => constant "rue" (.bool true)
    | some 'f' => constant "alse" (.bool false)
    | some '-' =>
      advance
      return .number (← number true)
    | some '"' =>
      advance
      return .string (← quotation)
    | some '[' => return .array (← items budget (← enter depth) true)
    | some '\x7b' => return .object (← entries budget (← enter depth) [])
    | some c => if c.isDigit then return .number (← number false) else failAtNext .expectedValue
termination_by structural budget

/-- The items of a list, up to its end; `first` before any item. -/
def items (budget depth : Nat) (first : Bool) : Scan (List Value) :=
  match budget with
  | 0 => failHere .tooDeep
  | budget + 1 => do
    if ← nextItem first then
      let item ← value budget depth
      return item :: (← items budget depth false)
    else
      advance
      return []
termination_by structural budget

/-- The entries of an object, up to its end, added to those already read. -/
def entries (budget depth : Nat) (read : Entries) : Scan Entries :=
  match budget with
  | 0 => failHere .tooDeep
  | budget + 1 => do
    if ← nextKey read.isEmpty then
      advance
      let key ← quotation
      colon
      let item ← value budget depth
      entries budget depth (Entries.insert key item read)
    else
      advance
      return read
termination_by structural budget

end

/-! ## Values that are not kept -/

mutual

/-- Skips a value. -/
def skipValue (budget : Nat) : Scan Unit :=
  match budget with
  | 0 => failHere .tooDeep
  | budget + 1 => do
    match ← skipBlanks with
    | none => failAtNext .endInValue
    | some 'n' => constant "ull" ()
    | some 't' => constant "rue" ()
    | some 'f' => constant "alse" ()
    | some '-' =>
      advance
      skipNumber
    | some '"' =>
      advance
      skipQuotation
    | some '[' =>
      advance
      match ← skipBlanks with
      | none => failAtNext .endInList
      | some ']' => advance
      | some _ => skipItems budget
    | some '\x7b' =>
      advance
      match ← skipBlanks with
      | none => failAtNext .endInObject
      | some '\x7d' => advance
      | some _ => skipEntries budget
    | some c => if c.isDigit then skipNumber else failAtNext .expectedValue
termination_by structural budget

/-- Skips the items of a list, from an item to the end of the list. -/
def skipItems (budget : Nat) : Scan Unit :=
  match budget with
  | 0 => failHere .tooDeep
  | budget + 1 => do
    skipValue budget
    match ← skipBlanks with
    | some ',' =>
      advance
      skipItems budget
    | some ']' => advance
    | some _ => failAtNext .expectedCommaOrBracket
    | none => failAtNext .endInList
termination_by structural budget

/-- Skips the entries of an object, from a key to the end of the object. -/
def skipEntries (budget : Nat) : Scan Unit :=
  match budget with
  | 0 => failHere .tooDeep
  | budget + 1 => do
    match ← skipBlanks with
    | some '"' => advance
    | some _ => failAtNext .keyNotString
    | none => failAtNext .endInObject
    skipQuotation
    match ← skipBlanks with
    | some ':' => advance
    | some _ => failAtNext .expectedColon
    | none => failAtNext .endInObject
    skipValue budget
    match ← skipBlanks with
    | some ',' =>
      advance
      skipEntries budget
    | some '\x7d' => advance
    | some _ => failAtNext .expectedCommaOrBrace
    | none => failAtNext .endInObject
termination_by structural budget

end

/-! ## Documents -/

/-- Steps that suffice for what is left of the text: a character takes two at most. -/
def budgetLeft : Scan Nat := do
  let cursor ← get
  pure (2 * cursor.rest.length + 8)

/-- Containers may be nested less deep than this. -/
def depthLimit : Nat := 128

/-- A reader for a text that holds nothing else. -/
def whole {α : Type} (scan : Scan α) : Scan α := do
  let result ← scan
  match ← skipBlanks with
  | none => pure result
  | some _ => failAtNext .trailingCharacters

end Scan

/-- The value that a text writes. -/
def parse (text : String) : Except Fault Value :=
  Scan.run (Scan.whole do Scan.value (← Scan.budgetLeft) Scan.depthLimit) text

end GrammarDesk.Json
