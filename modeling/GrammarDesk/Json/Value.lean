import GrammarDesk.Json.Number

/-!
# JSON values

A value is null, a truth value, a number, a text, a list of values or an object.  An object is the
list of its entries; every reader of this library keeps them in increasing order of their keys and
each key once.  Keys are ordered by code point, which is also the order of their UTF-8 bytes.

Main definitions:

- `Value`, `Entries`: values and the entries of an object.
- `Entries.get?`, `Entries.insert`: look-up, and insertion at the place that the order demands.
- `Value.get?`: look-up in a value that may be an object.
- `Value.isTruthy`: the values that a script counts as true.
-/

namespace GrammarDesk.Json

/-- A JSON value. -/
inductive Value where
  | null
  | bool (b : Bool)
  | number (n : Number)
  | string (s : String)
  | array (items : List Value)
  | object (entries : List (String × Value))
deriving BEq, Inhabited

/-- The entries of an object. -/
abbrev Entries := List (String × Value)

/-! ## Entries -/

/-- The value of the first entry with this key. -/
def Entries.get? : Entries → String → Option Value
  | [], _ => none
  | (k, v) :: rest, key => if k = key then some v else Entries.get? rest key

/-- The entries with this key bound to this value, in order; an earlier binding is replaced. -/
def Entries.insert (key : String) (value : Value) : Entries → Entries
  | [] => [(key, value)]
  | (k, v) :: rest =>
    if key = k then (key, value) :: rest
    else if key < k then (key, value) :: (k, v) :: rest
    else (k, v) :: Entries.insert key value rest

/-- The object with these bindings, the last of equal keys winning. -/
def Value.ofEntries (bindings : Entries) : Value :=
  .object (bindings.foldl (fun entries (k, v) => Entries.insert k v entries) [])

namespace Value

/-- The value bound to a key; only objects bind keys. -/
def get? : Value → String → Option Value
  | .object entries, key => Entries.get? entries key
  | _, _ => none

/-- The value is null. -/
def isNull : Value → Bool
  | .null => true
  | _ => false

/-- The value is an object. -/
def isObject : Value → Bool
  | .object _ => true
  | _ => false

/-- The natural number as a value. -/
def ofNat (n : UInt64) : Value := .number (.natural n)

/-- An optional value, null when it is absent. -/
def ofOption : Option Value → Value
  | none => .null
  | some v => v

/-- A list of texts as a value. -/
def ofStrings (items : List String) : Value := .array (items.map .string)

/-- What a script counts as true: all but null, false, zero and the empty text. -/
def isTruthy : Value → Bool
  | .null => false
  | .bool b => b
  | .number n => !n.isZero
  | .string s => !s.isEmpty
  | .array _ => true
  | .object _ => true

end Value

end GrammarDesk.Json
