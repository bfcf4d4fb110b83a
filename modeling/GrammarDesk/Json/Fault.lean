import GrammarDesk.Json.Render

/-!
# Why a document cannot be read

Reading fails for one cause, at a place in the text when there is a text: its line, counted from
one, and the bytes of that line read so far.  A value that is read without a text has no places.

Main definitions:

- `Fault.Cause`: the ways to fail, of the syntax and of the expected shape.
- `Fault`: a cause, and its place if there is one.
- `Fault.message`: the wording of a fault.
-/

namespace GrammarDesk.Json

/-- What was found where something else was expected. -/
inductive Found where
  | null
  | boolean (b : Bool)
  | integer (n : Number)
  | double (x : Binary64)
  | string (s : String)
  | sequence
  | map

/-- What a value is, as it is reported when it is of the wrong kind. -/
def Value.found : Value → Found
  | .null => .null
  | .bool b => .boolean b
  | .number (.double x) => .double x
  | .number n => .integer n
  | .string s => .string s
  | .array _ => .sequence
  | .object _ => .map

/-- The wording of what was found. -/
def Found.describe : Found → String
  | .null => "null"
  | .boolean b => "boolean `" ++ Text.describeBool b ++ "`"
  | .integer n => "integer `" ++ n.render ++ "`"
  | .double x => "floating point `" ++ x.render ++ "`"
  | .string s => "string " ++ Text.quote s
  | .sequence => "sequence"
  | .map => "map"

/-- A line of a text, counted from one, and a number of its bytes. -/
structure Place where
  line : Nat
  column : Nat
deriving DecidableEq

namespace Fault

/-- The ways in which reading fails. -/
inductive Cause where
  | endInList
  | endInObject
  | endInString
  | endInValue
  | expectedColon
  | expectedCommaOrBracket
  | expectedCommaOrBrace
  | expectedIdent
  | expectedValue
  | invalidEscape
  | invalidNumber
  | numberOutOfRange
  | controlCharacter
  | keyNotString
  | loneSurrogate
  | unpairedSurrogate
  | trailingComma
  | trailingCharacters
  | tooDeep
  /-- A value of the wrong kind. -/
  | invalidType (found : Found) (expected : String)
  /-- A value of the right kind, but out of bounds. -/
  | invalidValue (found : Found) (expected : String)
  | missingField (name : String)
  | duplicateField (name : String)
  | unknownVariant (name : String) (expected : List String)
  /-- A list of fields that is too short or too long. -/
  | invalidLength (length : Nat) (expected : String)

/-- A name between grave accents. -/
def named (s : String) : String := "`" ++ s ++ "`"

/-- The wording of a cause. -/
def Cause.describe : Cause → String
  | .endInList => "EOF while parsing a list"
  | .endInObject => "EOF while parsing an object"
  | .endInString => "EOF while parsing a string"
  | .endInValue => "EOF while parsing a value"
  | .expectedColon => "expected `:`"
  | .expectedCommaOrBracket => "expected `,` or `]`"
  | .expectedCommaOrBrace => "expected `,` or " ++ named "\x7d"
  | .expectedIdent => "expected ident"
  | .expectedValue => "expected value"
  | .invalidEscape => "invalid escape"
  | .invalidNumber => "invalid number"
  | .numberOutOfRange => "number out of range"
  | .controlCharacter => "control character (\\u0000-\\u001F) found while parsing a string"
  | .keyNotString => "key must be a string"
  | .loneSurrogate => "lone leading surrogate in hex escape"
  | .unpairedSurrogate => "unexpected end of hex escape"
  | .trailingComma => "trailing comma"
  | .trailingCharacters => "trailing characters"
  | .tooDeep => "recursion limit exceeded"
  | .invalidType found expected =>
    "invalid type: " ++ found.describe ++ ", expected " ++ expected
  | .invalidValue found expected =>
    "invalid value: " ++ found.describe ++ ", expected " ++ expected
  | .missingField name => "missing field " ++ named name
  | .duplicateField name => "duplicate field " ++ named name
  | .unknownVariant name expected =>
    "unknown variant " ++ named name ++ ", expected " ++ " or ".intercalate (expected.map named)
  | .invalidLength length expected =>
    "invalid length " ++ Text.decimal length ++ ", expected " ++ expected

end Fault

/-- A failure to read: its cause, and where in the text it was noticed. -/
structure Fault where
  cause : Fault.Cause
  place : Option Place

/-- The wording of a failure to read. -/
def Fault.message (fault : Fault) : String :=
  match fault.place with
  | none => fault.cause.describe
  | some place =>
    fault.cause.describe ++ " at line " ++ Text.decimal place.line
      ++ " column " ++ Text.decimal place.column

/-- A failure without a place. -/
def Fault.ofCause (cause : Fault.Cause) : Fault := ⟨cause, none⟩

end GrammarDesk.Json
