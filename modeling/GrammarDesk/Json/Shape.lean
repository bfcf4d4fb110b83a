import GrammarDesk.Json.Fault

/-!
# Expected shapes

A shape says what a record of this library demands of the JSON value it is read from.  Reading
against a shape gives the value in normal form: a record is an object with the record's own fields
only, also when it was written as the list of its fields in order.  The fields of a value are
judged in the order of their keys, and absent ones after them.

Main definitions:

- `Shape`, `Field`: what a value, and a field of a record, has to be.
- `Shape.conform`: a value in normal form, or the fault that it has.
-/

namespace GrammarDesk.Json

mutual

/-- What a value has to be. -/
inductive Shape where
  /-- A text. -/
  | text
  /-- A truth value. -/
  | boolean
  /-- A natural number of 64 bits. -/
  | offset
  /-- Any value. -/
  | anything
  /-- One of two names. -/
  | variant (first second : String)
  /-- A list of values of one shape. -/
  | list (item : Shape)
  /-- A list of records like the one that has it as a field. -/
  | siblings
  /-- A record: an object with these fields, or the list of their values in this order. -/
  | record (name : String) (fields : List Field)

/-- A field of a record: its key, whether it has to be there, whether null is allowed in its
place, and the shape of its value. -/
inductive Field where
  | mk (key : String) (required nullable : Bool) (shape : Shape)

end

namespace Field

/-- The key under which the field is found. -/
def key : Field → String
  | .mk key _ _ _ => key

/-- The field has to be there. -/
def isRequired : Field → Bool
  | .mk _ required _ _ => required

/-- The field may be null. -/
def isNullable : Field → Bool
  | .mk _ _ nullable _ => nullable

/-- The shape of the field's value. -/
def shape : Field → Shape
  | .mk _ _ _ shape => shape

/-- A field that has to be there. -/
def required (key : String) (shape : Shape) : Field := .mk key true false shape

/-- A field that has a default. -/
def optional (key : String) (shape : Shape) : Field := .mk key false false shape

/-- A field that may be absent or null. -/
def nullable (key : String) (shape : Shape) : Field := .mk key false true shape

/-- The first required field that an object lacks. -/
def firstMissing? (fields : List Field) (entries : Entries) : Option Field :=
  fields.find? fun f => f.isRequired && (Entries.get? entries f.key).isNone

/-- The place of the first required field among fields that are all absent. -/
def requiredIndex? (fields : List Field) : Option Nat :=
  fields.findIdx? isRequired

/-- The description of a record that is read from the list of its fields. -/
def describeCount (name : String) (fields : List Field) : String :=
  "struct " ++ name ++ " with " ++ Text.decimal fields.length
    ++ (if fields.length = 1 then " element" else " elements")

end Field

namespace Shape

/-- The wording of what a shape expects. -/
def describe : Shape → String
  | .text => "a string"
  | .boolean => "a boolean"
  | .offset => "usize"
  | .anything => "any value"
  | .variant _ _ => "string or map"
  | .list _ => "a sequence"
  | .siblings => "a sequence"
  | .record name _ => "struct " ++ name

/-- The fault of a value of the wrong kind. -/
def wrongKind {α : Type} (shape : Shape) (v : Value) : Except Fault α :=
  .error (Fault.ofCause (.invalidType v.found shape.describe))

/-- A number as an offset. -/
def conformNumber (n : Number) : Except Fault Value :=
  match n with
  | .natural _ => .ok (.number n)
  | .negSucc _ => .error (Fault.ofCause (.invalidValue (.integer n) (describe .offset)))
  | .double x => .error (Fault.ofCause (.invalidType (.double x) (describe .offset)))

/-- A name as one of the two that are allowed. -/
def conformName (first second name : String) : Except Fault Value :=
  if name = first ∨ name = second then .ok (.string name)
  else .error (Fault.ofCause (.unknownVariant name [first, second]))

/-- A name written as the only key of an object, whose value is null. -/
def conformKey (first second : String) (entries : Entries) : Except Fault Value :=
  match entries with
  | [(name, content)] => do
    let name ← conformName first second name
    if content.isNull then .ok name
    else .error (Fault.ofCause (.invalidType content.found "unit"))
  | _ => .error (Fault.ofCause (.invalidValue .map "map with a single key"))

/-- An object in normal form, unless a required field is missing. -/
def complete (fields : List Field) (entries : Entries) : Except Fault Value :=
  match Field.firstMissing? fields entries with
  | some f => .error (Fault.ofCause (.missingField f.key))
  | none => .ok (.object entries)

mutual

/-- The value in normal form, or its first fault; `outer` is the enclosing record. -/
def conform (outer shape : Shape) (v : Value) : Except Fault Value :=
  match shape, v with
  | .anything, v => .ok v
  | .text, .string s => .ok (.string s)
  | .boolean, .bool b => .ok (.bool b)
  | .offset, .number n => conformNumber n
  | .variant first second, .string name => conformName first second name
  | .variant first second, .object entries => conformKey first second entries
  | .list item, .array items => do
    let items ← conformItems outer item items
    .ok (.array items)
  | .siblings, .array items => do
    let items ← conformItems outer outer items
    .ok (.array items)
  | .record name fields, .object entries => do
    let entries ← conformEntries (.record name fields) fields entries
    complete fields entries
  | .record name fields, .array items =>
    conformFields (.record name fields) (name, fields) 0 items.length fields [] items
  | shape, v => wrongKind shape v
termination_by structural v

/-- The items of a list in normal form. -/
def conformItems (outer shape : Shape) (vs : List Value) : Except Fault (List Value) :=
  match vs with
  | [] => .ok []
  | v :: rest => do
    let v ← conform outer shape v
    let rest ← conformItems outer shape rest
    .ok (v :: rest)
termination_by structural vs

/-- The entries of an object that are fields of the record, in normal form. -/
def conformEntries (outer : Shape) (fields : List Field) (es : List (String × Value)) :
    Except Fault (List (String × Value)) :=
  match es with
  | [] => .ok []
  | e :: rest => do
    let first ← conformEntry outer fields e
    let rest ← conformEntries outer fields rest
    .ok (first.toList ++ rest)
termination_by structural es

/-- An entry in normal form, if its key is one of a field. -/
def conformEntry (outer : Shape) (fields : List Field) (e : String × Value) :
    Except Fault (Option (String × Value)) :=
  match e with
  | (key, v) =>
    match fields.find? (·.key = key) with
    | none => .ok none
    | some field =>
      if field.isNullable && v.isNull then .ok (some (key, .null))
      else do
        let v ← conform outer field.shape v
        .ok (some (key, v))
termination_by structural e

/-- The record that a list of values writes: each value belongs to the next field.  `total` is
the length of the whole list, `count` of its values have been read, into `read`. -/
def conformFields (outer : Shape) (record : String × List Field) (count total : Nat)
    (fields : List Field) (read : Entries) (vs : List Value) : Except Fault Value :=
  match vs with
  | [] =>
    match Field.requiredIndex? fields with
    | some i =>
      .error (Fault.ofCause (.invalidLength (count + i) (Field.describeCount record.1 record.2)))
    | none => .ok (.object read)
  | v :: rest =>
    match fields with
    | [] => .error (Fault.ofCause (.invalidLength total "fewer elements in array"))
    | field :: others =>
      if field.isNullable && v.isNull then
        conformFields outer record (count + 1) total others
          (Entries.insert field.key .null read) rest
      else do
        let v ← conform outer field.shape v
        conformFields outer record (count + 1) total others
          (Entries.insert field.key v read) rest
termination_by structural vs

end

/-- The value in normal form of a shape that stands in no record. -/
def check (shape : Shape) (v : Value) : Except Fault Value :=
  shape.conform shape v

end Shape

/-! ## Reading normal forms

What a field of a record in normal form holds.  The defaults stand for absent fields. -/

namespace Value

/-- The text of a field. -/
def textAt (v : Value) (key : String) (default : String) : String :=
  match v.get? key with
  | some (.string s) => s
  | _ => default

/-- The text of a field that may be absent or null. -/
def textAt? (v : Value) (key : String) : Option String :=
  match v.get? key with
  | some (.string s) => some s
  | _ => none

/-- The offset of a field. -/
def offsetAt (v : Value) (key : String) : UInt64 :=
  match v.get? key with
  | some (.number (.natural n)) => n
  | _ => 0

/-- The truth value of a field. -/
def boolAt (v : Value) (key : String) : Bool :=
  match v.get? key with
  | some (.bool b) => b
  | _ => false

/-- The items of a field. -/
def itemsAt (v : Value) (key : String) : List Value :=
  match v.get? key with
  | some (.array items) => items
  | _ => []

/-- The texts of a field that lists texts. -/
def textsAt (v : Value) (key : String) : List String :=
  (v.itemsAt key).filterMap fun
    | .string s => some s
    | _ => none

end Value

end GrammarDesk.Json
