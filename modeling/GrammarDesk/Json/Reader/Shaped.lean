import GrammarDesk.Json.Reader.Document
import GrammarDesk.Json.Shape

/-!
# Documents of an expected shape

A text is read against a shape in one pass, so the first fault in the text wins, whether it lies
in the syntax or in the shape.  The result is the value in normal form.  A field may be given only
once; what belongs to no field is skipped.

Main definitions:

- `Scan.shaped`: a value of a shape.
- `Shape.read`: the value in normal form that a text writes.
-/

namespace GrammarDesk.Json

namespace Scan

/-- Fails because of the kind of the next value, which is read first unless it is a container. -/
def failKind {α : Type} (expected : String) : Scan α := do
  match ← peek with
  | some 'n' =>
    constant "ull" ()
    failHere (.invalidType .null expected)
  | some 't' =>
    constant "rue" ()
    failHere (.invalidType (.boolean true) expected)
  | some 'f' =>
    constant "alse" ()
    failHere (.invalidType (.boolean false) expected)
  | some '-' =>
    advance
    let n ← number true
    failHere (.invalidType (Value.number n).found expected)
  | some '"' =>
    advance
    let s ← quotation
    failHere (.invalidType (.string s) expected)
  | some '[' => failHere (.invalidType .sequence expected)
  | some '\x7b' => failHere (.invalidType .map expected)
  | some c =>
    if c.isDigit then
      let n ← number false
      failHere (.invalidType (Value.number n).found expected)
    else
      failAtNext .expectedValue
  | none => failAtNext .expectedValue

/-- Moves to the next value, which has to be there. -/
def nextValue : Scan Char := do
  match ← skipBlanks with
  | some c => pure c
  | none => failAtNext .endInValue

/-- A text. -/
def shapedText (expected : String) : Scan String := do
  if (← nextValue) = '"' then
    advance
    quotation
  else
    failKind expected

/-- A truth value. -/
def shapedBoolean : Scan Bool := do
  match ← nextValue with
  | 't' => constant "rue" true
  | 'f' => constant "alse" false
  | _ => failKind (Shape.describe .boolean)

/-- A number that is an offset. -/
def checkedOffset (n : Number) : Scan Value :=
  match Shape.conformNumber n with
  | .ok v => pure v
  | .error fault => failHere fault.cause

/-- An offset. -/
def shapedOffset : Scan Value := do
  match ← nextValue with
  | '-' =>
    advance
    checkedOffset (← number true)
  | c =>
    if c.isDigit then checkedOffset (← number false)
    else failKind (Shape.describe .offset)

/-- A name that is one of two. -/
def checkedName (first second name : String) : Scan Value :=
  match Shape.conformName first second name with
  | .ok v => pure v
  | .error fault => failHere fault.cause

/-- One of two names, as a text or as the only key of an object whose value is null. -/
def shapedVariant (depth : Nat) (first second : String) : Scan Value := do
  match ← nextValue with
  | '"' =>
    advance
    checkedName first second (← quotation)
  | '\x7b' =>
    let _ ← enter depth
    let name ← checkedName first second (← shapedText "variant identifier")
    colon
    match ← nextValue with
    | 'n' => constant "ull" ()
    | _ => failKind "unit"
    match ← skipBlanks with
    | some '\x7d' =>
      advance
      pure name
    | some _ => failHere .expectedValue
    | none => failHere .endInObject
  | _ => failAtNext .expectedValue

/-- The end of a list of fields, all of which have been read. -/
def closeFields : Scan Unit := do
  match ← skipBlanks with
  | some ']' => advance
  | some ',' =>
    advance
    match ← skipBlanks with
    | some ']' => failAtNext .trailingComma
    | _ => failAtNext .trailingCharacters
  | some _ => failAtNext .trailingCharacters
  | none => failAtNext .endInList

/-- Fails because of a second value for a field, as soon as its key has been read. -/
def failDuplicate {α : Type} (key : String) : Scan α := do
  if (← skipBlanks) == some '\x7d' then advance
  failHere (.duplicateField key)

/-- An object in normal form, unless a required field is missing. -/
def completed (fields : List Field) (read : Entries) : Scan Value :=
  match Field.firstMissing? fields read with
  | some f => failHere (.missingField f.key)
  | none => pure (.object read)

mutual

/-- A value of a shape; `budget` bounds the steps, `depth` the containers, and `outer` is the
enclosing record. -/
def shaped (budget depth : Nat) (outer shape : Shape) : Scan Value :=
  match budget with
  | 0 => failHere .tooDeep
  | budget + 1 => do
    match shape with
    | .text => return .string (← shapedText (Shape.describe .text))
    | .boolean => return .bool (← shapedBoolean)
    | .offset => shapedOffset
    | .anything => value budget depth
    | .variant first second => shapedVariant depth first second
    | .list item =>
      match ← nextValue with
      | '[' => return .array (← shapedItems budget (← enter depth) outer item true)
      | _ => failKind shape.describe
    | .siblings =>
      match ← nextValue with
      | '[' => return .array (← shapedItems budget (← enter depth) outer outer true)
      | _ => failKind shape.describe
    | .record name fields =>
      match ← nextValue with
      | '[' => shapedFields budget (← enter depth) (.record name fields) 0 fields []
      | '\x7b' => shapedEntries budget (← enter depth) (.record name fields) fields true []
      | _ => failKind shape.describe
termination_by structural budget

/-- The items of a list of values of one shape, up to its end; `first` before any item. -/
def shapedItems (budget depth : Nat) (outer shape : Shape) (first : Bool) : Scan (List Value) :=
  match budget with
  | 0 => failHere .tooDeep
  | budget + 1 => do
    if ← nextItem first then
      let item ← shaped budget depth outer shape
      return item :: (← shapedItems budget depth outer shape false)
    else
      advance
      return []
termination_by structural budget

/-- The value of a field. -/
def shapedField (budget depth : Nat) (outer : Shape) (field : Field) : Scan Value :=
  match budget with
  | 0 => failHere .tooDeep
  | budget + 1 => do
    if field.isNullable then
      match ← skipBlanks with
      | some 'n' => constant "ull" .null
      | _ => shaped budget depth outer field.shape
    else
      shaped budget depth outer field.shape
termination_by structural budget

/-- The entries of a record, up to the end of the object. -/
def shapedEntries (budget depth : Nat) (outer : Shape) (fields : List Field) (first : Bool)
    (read : Entries) : Scan Value :=
  match budget with
  | 0 => failHere .tooDeep
  | budget + 1 => do
    if ← nextKey first then
      advance
      let key ← quotation
      match fields.find? (·.key = key) with
      | some field =>
        if (Entries.get? read key).isSome then failDuplicate key
        else
          colon
          let v ← shapedField budget depth outer field
          shapedEntries budget depth outer fields false (Entries.insert key v read)
      | none =>
        colon
        skipValue budget
        shapedEntries budget depth outer fields false read
    else
      advance
      completed fields read
termination_by structural budget

/-- The values of the fields of a record, up to the end of the list; `count` of them have been
read. -/
def shapedFields (budget depth : Nat) (outer : Shape) (count : Nat) (fields : List Field)
    (read : Entries) : Scan Value :=
  match budget with
  | 0 => failHere .tooDeep
  | budget + 1 => do
    match fields with
    | [] =>
      closeFields
      return .object read
    | field :: others =>
      if ← nextItem (count == 0) then
        let v ← shapedField budget depth outer field
        shapedFields budget depth outer (count + 1) others (Entries.insert field.key v read)
      else
        advance
        match Field.requiredIndex? fields, outer with
        | some i, .record name all =>
          failHere (.invalidLength (count + i) (Field.describeCount name all))
        | _, _ => return .object read
termination_by structural budget

end

end Scan

/-- The value in normal form that a text writes against a shape. -/
def Shape.read (shape : Shape) (text : String) : Except Fault Value :=
  Scan.run (Scan.whole do
    Scan.shaped (2 * (← Scan.budgetLeft)) Scan.depthLimit shape shape) text

end GrammarDesk.Json
