import GrammarDesk.Json.Value
import GrammarDesk.Text.Quoted

/-!
# The text of a value

The compact text has no blanks.  The spread text puts each item and each entry on a line of its
own, two spaces further in than its container; an empty container stays closed.  Entries are
written in the order in which the object holds them.

Main definitions:

- `renderString`: a text between quotes, with quotes, backslashes and controls escaped.
- `Value.render`: the compact text.
- `Value.renderSpread`: the spread text.
-/

namespace GrammarDesk.Json

/-! ## Texts -/

/-- Two hexadecimal digits of a number below 256. -/
def hexPair (n : Nat) : String :=
  String.ofList [Nat.digitChar (n / 16), Nat.digitChar (n % 16)]

/-- One character of a JSON text. -/
def renderChar (c : Char) : String :=
  if c = '"' then "\\\""
  else if c = '\\' then "\\\\"
  else if c = '\n' then "\\n"
  else if c = '\r' then "\\r"
  else if c = '\t' then "\\t"
  else if c.toNat = 0x08 then "\\b"
  else if c.toNat = 0x0C then "\\f"
  else if c.toNat < 0x20 then "\\u00" ++ hexPair c.toNat
  else c.toString

/-- A text between double quotes. -/
def renderString (s : String) : String :=
  "\"" ++ String.join (s.toList.map renderChar) ++ "\""

/-! ## Compact text -/

/-- Parts between two marks, separated by commas. -/
def enclose (opening closing : String) (parts : List String) : String :=
  opening ++ ",".intercalate parts ++ closing

mutual

/-- The compact text of a value. -/
def Value.render : Value → String
  | .null => "null"
  | .bool b => if b then "true" else "false"
  | .number n => n.render
  | .string s => renderString s
  | .array items => enclose "[" "]" (renderItems items)
  | .object entries => enclose "\x7b" "\x7d" (renderEntries entries)
termination_by structural v => v

/-- The compact texts of the items of a list. -/
def renderItems : List Value → List String
  | [] => []
  | v :: rest => v.render :: renderItems rest
termination_by structural vs => vs

/-- The compact texts of the entries of an object. -/
def renderEntries : List (String × Value) → List String
  | [] => []
  | (k, v) :: rest => (renderString k ++ ":" ++ v.render) :: renderEntries rest
termination_by structural es => es

end

/-! ## Spread text -/

/-- Lines between two marks, each indented by `depth + 1` steps of two spaces; no lines leave the
marks together. -/
def spread (depth : Nat) (opening closing : String) (lines : List String) : String :=
  if lines.isEmpty then opening ++ closing
  else
    let margin := String.ofList (List.replicate (2 * (depth + 1)) ' ')
    let outer := String.ofList (List.replicate (2 * depth) ' ')
    opening ++ "\n" ++ ",\n".intercalate (lines.map (margin ++ ·)) ++ "\n" ++ outer ++ closing

mutual

/-- The spread text of a value that stands `depth` containers deep. -/
def Value.renderSpread (depth : Nat) : Value → String
  | .null => "null"
  | .bool b => if b then "true" else "false"
  | .number n => n.render
  | .string s => renderString s
  | .array items => spread depth "[" "]" (spreadItems (depth + 1) items)
  | .object entries => spread depth "\x7b" "\x7d" (spreadEntries (depth + 1) entries)
termination_by structural v => v

/-- The spread texts of the items of a list. -/
def spreadItems (depth : Nat) : List Value → List String
  | [] => []
  | v :: rest => v.renderSpread depth :: spreadItems depth rest
termination_by structural vs => vs

/-- The spread texts of the entries of an object. -/
def spreadEntries (depth : Nat) : List (String × Value) → List String
  | [] => []
  | (k, v) :: rest => (renderString k ++ ": " ++ v.renderSpread depth) :: spreadEntries depth rest
termination_by structural es => es

end

end GrammarDesk.Json
