import GrammarDesk.Text.Unprintable

/-!
# Quoted texts and descriptions of records

A quoted text stands between double quotes.  A quote and a backslash inside it follow a backslash,
the common controls have letters, and every other character that does not print is written by its
number.  A description shows a record as its name and its fields in order.

Main definitions:

- `quote`: the quoted form of a text.
- `describeRecord`, `describeList`, `describeOption`: descriptions built from described parts.
-/

namespace GrammarDesk.Text

/-! ## Quoting -/

/-- The hexadecimal digits of a number, in small letters, without leading zeros. -/
def hexDigits (n : Nat) : String :=
  String.ofList (Nat.toDigits 16 n)

/-- One character of a quoted text. -/
def quoteChar (c : Char) : String :=
  if c = '"' then "\\\""
  else if c = '\\' then "\\\\"
  else if c = '\n' then "\\n"
  else if c = '\r' then "\\r"
  else if c = '\t' then "\\t"
  else if c.toNat = 0 then "\\0"
  else if isUnprintable c then "\\u\x7b" ++ hexDigits c.toNat ++ "\x7d"
  else c.toString

/-- The text between double quotes, with what does not print escaped. -/
def quote (s : String) : String :=
  "\"" ++ String.join (s.toList.map quoteChar) ++ "\""

/-! ## Descriptions -/

/-- A record by its name and its described fields, in the given order. -/
def describeRecord (name : String) (fields : List (String × String)) : String :=
  let parts := fields.map fun (key, text) => key ++ ": " ++ text
  name ++ " \x7b " ++ ", ".intercalate parts ++ " \x7d"

/-- A list of described items between brackets. -/
def describeList (items : List String) : String :=
  "[" ++ ", ".intercalate items ++ "]"

/-- An optional described item. -/
def describeOption : Option String → String
  | none => "None"
  | some text => "Some(" ++ text ++ ")"

/-- A truth value in words. -/
def describeBool (b : Bool) : String :=
  if b then "true" else "false"

end GrammarDesk.Text
