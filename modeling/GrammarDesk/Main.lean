import GrammarDesk.CommandLine.Program
import GrammarDesk.Grammar.Registry

/-!
# The command line

The outer layer: it answers the questions of a run with files, the standard input and the variables
of the process.  This host has no network and no modules of its own, so every request is lost and
no module is found.
-/

namespace GrammarDesk.CommandLine

open Grammar

/-- The number of a fault, which some functions of the system give with a minus sign. -/
def faultNumber (code : UInt32) : UInt32 := min code (0 - code)

/-- The fault of a failed reading. -/
def faultOf : IO.Error → FileFault
  | .noFileOrDirectory _ _ _ => .missing
  | .permissionDenied _ _ _ => .forbidden
  | .inappropriateType _ code _ =>
    if faultNumber code = 20 then .outsideDirectory else .directory
  | .invalidArgument file code details =>
    if faultNumber code = 36 then .longName
    else .other (IO.Error.invalidArgument file code details).toString
  | e => .other e.toString

/-- The text of bytes, if they are one. -/
def textOf (bytes : ByteArray) : Except FileFault String :=
  match String.fromUTF8? bytes with
  | some text => .ok text
  | none => .error .notText

/-- The text that an action of the system reads. -/
def readText (bytes : IO ByteArray) : IO (Except FileFault String) := do
  match ← bytes.toBaseIO with
  | .ok bytes => return textOf bytes
  | .error e => return .error (faultOf e)

/-- The answer of this host to a call. -/
def answerCall : (c : Call) → c.Answer
  | .send request => request.unsent
  | .load url => (Except.error (.moduleNotFound url) : Except Failure Module)
  | .parse _ _ _ _ => (Except.error .parseUnavailable : Except Failure (Option Tree.RawResult))
  | .eval _ _ _ _ _ => (Except.error .evalUnavailable : Except Failure (Option Tree.RawResult))
  | .getOption _ _ _ => (Except.ok none : Except Failure (Option Json.Value))

/-- The answer of this host to a question. -/
def answerQuery : (q : Query) → IO q.Answer
  | .call c => return answerCall c
  | .file path => readText (IO.FS.readBinFile path)
  | .input => readText do (← IO.getStdin).readBinToEnd

/-- The result of a dialogue with this host. -/
def converse {α : Type} : Dialogue Query Query.Answer α → IO α
  | .done result => pure result
  | .ask q next => do converse (next (← answerQuery q))

/-- The variables of the process among the given names. -/
def environmentOf (names : List String) : IO Environment := do
  let known ← names.mapM fun name => do return (name, ← IO.getEnv name)
  return fun name => (known.lookup name).join

/-- The names of the variables that a run may look at. -/
def relevantNames : IO (List String) := do
  let own := clientVariable :: Settings.variableNames
  match ← readText (IO.FS.readBinFile variableFile) with
  | .ok text => return own ++ VariableFile.mentionedNames text
  | .error _ => return own

/-- A name for a client without one. -/
def freshClient : IO String := do
  let digits ← (List.range 32).mapM fun _ => IO.rand 0 15
  return String.ofList (digits.map Nat.digitChar)

end GrammarDesk.CommandLine

open GrammarDesk.CommandLine in
/-- Runs the program. -/
def main (args : List String) : IO UInt32 := do
  let env ← environmentOf (← relevantNames)
  let outcome ← converse (run env (← freshClient) args)
  IO.print outcome.output
  IO.eprint outcome.complaint
  return outcome.code
