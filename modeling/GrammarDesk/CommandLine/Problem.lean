import GrammarDesk.Failure
import GrammarDesk.Text.Blank
import GrammarDesk.Text.Decimal

/-!
# Problems of a run

A run of the program that fails says what failed, and then what caused it, the nearest cause first.
A single cause is indented; several are numbered.

Main definitions:

- `FileFault`, `Problem`: why a file cannot be read, and why a run fails.
- `Problem.message`, `Problem.causes`: the wording of a problem and of its causes.
- `Problem.render`: the text that is shown.
-/

namespace GrammarDesk.CommandLine

/-- Why a file cannot be read as text. -/
inductive FileFault where
  | missing
  | forbidden
  /-- What should hold the file is no directory. -/
  | outsideDirectory
  | directory
  | longName
  | notText
  /-- Another fault, in the words of the system. -/
  | other (text : String)
deriving DecidableEq

/-- The wording of a fault. -/
def FileFault.message : FileFault → String
  | .missing => "No such file or directory (os error 2)"
  | .forbidden => "Permission denied (os error 13)"
  | .outsideDirectory => "Not a directory (os error 20)"
  | .directory => "Is a directory (os error 21)"
  | .longName => "File name too long (os error 36)"
  | .notText => "stream did not contain valid UTF-8"
  | .other text => text

/-- Why a run fails. -/
inductive Problem where
  | failure (f : Failure)
  /-- Something cannot be read: a file, or the standard input. -/
  | unreadable (what : String) (fault : FileFault)
  | badMapping (path : String) (fault : Json.Fault)
  | badContext (fault : Json.Fault)
  | noActiveGrammar
  /-- A notification of the inspector. -/
  | notified (message : String)

namespace Problem

/-- The wording of a problem. -/
def message : Problem → String
  | .failure f => f.message
  | .unreadable what _ => "Failed to read " ++ what
  | .badMapping path _ => "Invalid mapping in " ++ path
  | .badContext _ => "--context is not valid JSON"
  | .noActiveGrammar => "Session has no active grammar"
  | .notified message => message

/-- The wordings of the causes, the nearest first. -/
def causes : Problem → List String
  | .failure f => f.sources
  | .unreadable _ fault => [fault.message]
  | .badMapping _ fault => [fault.message]
  | .badContext fault => [fault.message]
  | .noActiveGrammar => []
  | .notified _ => []

/-! ## The text of a problem -/

/-- A text whose first line follows a lead, and whose other lines follow a margin. -/
def indent (lead margin text : String) : String :=
  lead ++ ("\n" ++ margin).intercalate (Text.pieces '\n' text)

/-- The lines of the causes. -/
def causeLines : List String → List String
  | [] => []
  | [cause] => [indent "    " "    " cause]
  | causes => causes.mapIdx fun i cause => indent (Text.padLeft 5 i ++ ": ") "       " cause

/-- The text that is shown for a problem. -/
def render (p : Problem) : String :=
  let lines := causeLines p.causes
  let tail := if lines.isEmpty then [] else "" :: "Caused by:" :: lines
  "\n".intercalate (("Error: " ++ p.message) :: tail) ++ "\n"

end Problem

end GrammarDesk.CommandLine
