import GrammarDesk.Tree.Node
import GrammarDesk.Failure
import GrammarDesk.Text.Blank
import GrammarDesk.Text.Bytes
import GrammarDesk.Text.Decimal

/-!
# Field mappings

Backends store a node's fields under keys of their own.  A field mapping names for each field the
key to look under; a key may be a path with dots into nested objects.  Reading through a mapping is
tolerant: only the structure can be wrong, every other field takes what it finds.

Main definitions:

- `Mapping`, `Mapping.identity`: the keys of the fields, and the mapping to the fields' own names.
- `find?`: the value under a path.
- `Mapping.mapTree`: the tree that a value holds under a mapping.
- `shapeHint`: the text of a value that is no tree, cut short.
-/

namespace GrammarDesk.Tree

open Json

/-- The key of each field of a node. -/
structure Mapping where
  name : String
  start : String
  stop : String
  children : String
  skip : String
  error : String
  value : String
  tokenType : String
deriving DecidableEq

namespace Mapping

/-- The mapping under which each field keeps its own name. -/
def identity : Mapping where
  name := "name"
  start := "start"
  stop := "end"
  children := "children"
  skip := "skip"
  error := "error"
  value := "value"
  tokenType := "tokenType"

instance : Inhabited Mapping := ⟨identity⟩

/-! ## Mappings as JSON -/

/-- The mapping as an object with sorted keys. -/
def toValue (m : Mapping) : Value :=
  .object [("children", .string m.children), ("end", .string m.stop),
    ("error", .string m.error), ("name", .string m.name), ("skip", .string m.skip),
    ("start", .string m.start), ("tokenType", .string m.tokenType),
    ("value", .string m.value)]

/-- The mapping as an object in the order of declaration. -/
def toRecord (m : Mapping) : Value :=
  .object [("name", .string m.name), ("start", .string m.start), ("end", .string m.stop),
    ("children", .string m.children), ("skip", .string m.skip), ("error", .string m.error),
    ("value", .string m.value), ("tokenType", .string m.tokenType)]

/-- What a mapping has to be when it is read; every key has a default. -/
def shape : Shape :=
  .record "FieldMapping" [
    .optional "name" .text, .optional "start" .text, .optional "end" .text,
    .optional "children" .text, .optional "skip" .text, .optional "error" .text,
    .optional "value" .text, .optional "tokenType" .text]

/-- The mapping of a value in normal form; absent keys are the fields' own names. -/
def ofNormal (v : Value) : Mapping where
  name := v.textAt "name" identity.name
  start := v.textAt "start" identity.start
  stop := v.textAt "end" identity.stop
  children := v.textAt "children" identity.children
  skip := v.textAt "skip" identity.skip
  error := v.textAt "error" identity.error
  value := v.textAt "value" identity.value
  tokenType := v.textAt "tokenType" identity.tokenType

/-- The mapping that a value holds, if it has the shape of one. -/
def ofValue (v : Value) : Except Fault Mapping :=
  (shape.check v).map ofNormal

/-- The mapping that a text writes, if it has the shape of one. -/
def ofText (text : String) : Except Fault Mapping :=
  (shape.read text).map ofNormal

/-- The mapping by its keys. -/
def describe (m : Mapping) : String :=
  Text.describeRecord "FieldMapping" [
    ("name", Text.quote m.name), ("start", Text.quote m.start), ("end", Text.quote m.stop),
    ("children", Text.quote m.children), ("skip", Text.quote m.skip),
    ("error", Text.quote m.error), ("value", Text.quote m.value),
    ("token_type", Text.quote m.tokenType)]

end Mapping

/-! ## Looking under a path -/

/-- The value reached by taking the keys one after the other. -/
def follow? (v : Value) : List String → Option Value
  | [] => some v
  | key :: keys => (v.get? key).bind (follow? · keys)

/-- The value under a path: nothing under the empty path, else what the object binds to the whole
path, else what is reached by the pieces of the path between its dots. -/
def find? (entries : Entries) (path : String) : Option Value :=
  if path.isEmpty then none
  else match Entries.get? entries path with
    | some v => some v
    | none => follow? (.object entries) (Text.pieces '.' path)

/-! ## Reading single fields -/

/-- An offset: a number, or a text that writes one. -/
def offsetOf? : Value → Option Offset
  | .number n => some n.toOffset
  | .string s => Text.readUnsigned? (Text.trim s)
  | _ => none

/-- A text: a text itself, and of any other value its compact text. -/
def textOf : Value → String
  | .string s => s
  | v => v.render

/-- What a flag for errors says that bears no message of its own. -/
def flaggedError : String := "error"

/-- An error message: null, false and the empty text are none. -/
def errorOf? : Value → Option String
  | .null => none
  | .bool false => none
  | .bool true => some flaggedError
  | .string s => if s.isEmpty then none else some s
  | v => some v.render

/-- A value that is not null. -/
def present? (v : Option Value) : Option Value := v.filter (!·.isNull)

/-! ## Values that are no trees -/

/-- The most bytes of a hint. -/
def hintLimit : Nat := 80

/-- The text of a value, cut at a character boundary when it is longer than a hint may be. -/
def shapeHint (v : Value) : String :=
  let text := v.render
  if text.utf8ByteSize ≤ hintLimit then text
  else
    let cut := (Text.lastBoundary? text.toList hintLimit).getD 0
    String.ofList (Text.takeBytes cut text.toList) ++ "..."

/-! ## Reading a tree -/

/-- What entries bind is smaller than they are. -/
theorem Entries.sizeOf_get? {entries : Entries} {key : String} {v : Value}
    (h : Entries.get? entries key = some v) : sizeOf v < sizeOf entries := by
  induction entries with
  | nil => simp [Entries.get?] at h
  | cons e rest ih =>
    obtain ⟨k, w⟩ := e
    by_cases hk : k = key
    · simp only [Entries.get?, hk, if_pos, Option.some.injEq] at h
      subst h
      simp only [List.cons.sizeOf_spec, Prod.mk.sizeOf_spec]
      omega
    · simp only [Entries.get?, hk, if_false] at h
      have := ih h
      simp only [List.cons.sizeOf_spec]
      omega

/-- What an object binds is smaller than the object. -/
theorem sizeOf_get? {v w : Value} {key : String} (h : v.get? key = some w) :
    sizeOf w < sizeOf v := by
  cases v with
  | object entries =>
    have := Entries.sizeOf_get? h
    simp only [Value.object.sizeOf_spec]
    omega
  | _ => simp [Value.get?] at h

/-- What lies on a path is no larger than where the path starts. -/
theorem sizeOf_follow? {keys : List String} : ∀ {v w : Value}, follow? v keys = some w →
    sizeOf w ≤ sizeOf v := by
  induction keys with
  | nil =>
    intro v w h
    simp only [follow?, Option.some.injEq] at h
    simp [h]
  | cons key keys ih =>
    intro v w h
    simp only [follow?, Option.bind_eq_some_iff] at h
    obtain ⟨u, hu, hw⟩ := h
    have := sizeOf_get? hu
    have := ih hw
    omega

/-- What is found in an object is no larger than the object. -/
theorem sizeOf_find? {entries : Entries} {path : String} {w : Value}
    (h : find? entries path = some w) : sizeOf w ≤ sizeOf (Value.object entries) := by
  unfold find? at h
  split at h
  · simp at h
  · split at h
    · rename_i v hv
      simp only [Option.some.injEq] at h
      subst h
      have := Entries.sizeOf_get? hv
      simp only [Value.object.sizeOf_spec]
      omega
    · exact sizeOf_follow? h

namespace Mapping

/-- The node of an object whose children have been read. -/
def nodeOf (m : Mapping) (entries : Entries) (children : List Node) : Node :=
  let start := ((find? entries m.start).bind offsetOf?).getD 0
  { name := ((find? entries m.name).map textOf).getD ""
    start := start
    stop := max (((find? entries m.stop).bind offsetOf?).getD start) start
    children := children
    tokenType := (present? (find? entries m.tokenType)).map textOf
    skip := ((find? entries m.skip).map Value.isTruthy).getD false
    error := (find? entries m.error).bind errorOf?
    value := present? (find? entries m.value) }

mutual

/-- The tree that a value holds.  The value and everything in its lists of children has to be an
object, and a list of children has to be a list, null or absent; the first offender in document
order is reported. -/
def mapTree (m : Mapping) (v : Value) : Except Failure Node :=
  match v with
  | .object entries =>
    match _h : find? entries m.children with
    | some (.array items) => do
      let children ← mapTrees m items
      .ok (m.nodeOf entries children)
    | some .null => .ok (m.nodeOf entries [])
    | none => .ok (m.nodeOf entries [])
    | some other => .error (.unknownShape (shapeHint other))
  | other => .error (.unknownShape (shapeHint other))
termination_by sizeOf v
decreasing_by
  have := sizeOf_find? _h
  simp only [Value.array.sizeOf_spec] at this
  omega

/-- The trees that the values of a list hold. -/
def mapTrees (m : Mapping) (vs : List Value) : Except Failure (List Node) :=
  match vs with
  | [] => .ok []
  | v :: rest => do
    let n ← mapTree m v
    let ns ← mapTrees m rest
    .ok (n :: ns)
termination_by sizeOf vs

end

end Mapping

end GrammarDesk.Tree
