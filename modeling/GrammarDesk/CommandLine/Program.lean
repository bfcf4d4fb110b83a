import GrammarDesk.CommandLine.Invocation
import GrammarDesk.CommandLine.Report
import GrammarDesk.Inspector.Pass
import GrammarDesk.Session
import GrammarDesk.Settings.VariableFile

/-!
# The program

A run of the program is a dialogue with the world around it: it calls backends and reads files and
the standard input, each when it comes to it.  In the end it prints a report, or says what failed.

Main definitions:

- `Query`: what a run asks the world.
- `Run`: a part of a run that may fail.
- `perform`: the report of an action.
- `run`: a run of the program with arguments.
-/

namespace GrammarDesk.CommandLine

open Json GrammarDesk.Tree Grammar Inspector

/-! ## Questions to the world -/

/-- What a run asks the world. -/
inductive Query where
  /-- A call of a backend. -/
  | call (c : Call)
  /-- The text of a file. -/
  | file (path : String)
  /-- The text of the standard input. -/
  | input

/-- What a question is answered with. -/
def Query.Answer : Query → Type
  | .call c => c.Answer
  | .file _ => Except FileFault String
  | .input => Except FileFault String

/-- A part of a run that may fail. -/
abbrev Run (α : Type) := ExceptT Problem (Dialogue Query Query.Answer) α

namespace Run

/-- A dialogue with backends as a dialogue with the world. -/
def ofDialogue {α : Type} : Inquiry α → Dialogue Query Query.Answer α
  | .done result => .done result
  | .ask c next => .ask (.call c) fun answer => ofDialogue (next answer)

/-- A part that calls backends and cannot fail. -/
def ofInquiry {α : Type} (i : Inquiry α) : Run α := ExceptT.lift (ofDialogue i)

/-- A part that calls backends. -/
def ofTask {α : Type} (t : Grammar.Task α) : Run α := do
  match ← ofInquiry (Task.attempt t) with
  | .ok result => pure result
  | .error failure => throw (.failure failure)

/-- A result whose error is worded as a problem. -/
def ofResult {ε α : Type} (wording : ε → Problem) : Except ε α → Run α
  | .ok result => pure result
  | .error e => throw (wording e)

/-- The text of a file. -/
def readFile (path : String) : Run String :=
  ExceptT.mk (.ask (.file path) fun text : Except FileFault String =>
    .done (text.mapError (.unreadable path)))

/-- What the standard input is called. -/
def inputName : String := "stdin"

/-- The text of the standard input. -/
def readInput : Run String :=
  ExceptT.mk (.ask .input fun text : Except FileFault String =>
    .done (text.mapError (.unreadable inputName)))

end Run

/-! ## Parts of actions -/

/-- How an action is done. -/
structure Manner where
  settings : Settings
  client : String
  isJson : Bool

/-- The plugin at a URL. -/
def Manner.load (m : Manner) (url : String) (mapping : Option Mapping) : Run Plugin :=
  Run.ofTask (Grammar.load m.settings m.client url mapping)

/-- The expression of a source. -/
def readSource : Source → Run String
  | .given expression => pure expression
  | .file path => Run.readFile path
  | .input => Run.readInput

/-- The mapping of a file. -/
def readMapping (path : String) : Run Mapping := do
  Run.ofResult (.badMapping path) (Mapping.ofText (← Run.readFile path))

/-- The mapping of a file, if one is named. -/
def readMapping? : Option String → Run (Option Mapping)
  | none => pure none
  | some path => some <$> readMapping path

/-- The production to start from: the given one, or the default of the plugin. -/
def chooseRootTag (p : Plugin) (given : Option String) : Run String :=
  Run.ofInquiry (rootTagOf p given)

/-- The report of everything that a plugin derives from an input; a notification is a problem. -/
def inspectWith (m : Manner) (p : Plugin) (expression context : String) (rootTag : Option String)
    (offset : Option Offset) : Run String := do
  let (state, notes) ← Run.ofInquiry (Inspector.inspect p expression context rootTag)
  match notes with
  | note :: _ => throw (.notified note.message)
  | [] => return if m.isJson then jsonReport (stateValue state offset) else stateReport state offset

/-- The saved session of a file, without its layout. -/
def readSession (path : String) : Run Session := do
  Run.ofResult .failure (Session.restore (← Run.readFile path) false)

/-- The active grammar of a session. -/
def activeOf (s : Session) : Run Record :=
  match s.active? with
  | some r => pure r
  | none => throw .noActiveGrammar

/-- The plugin of a record. -/
def Manner.loadRecord (m : Manner) (r : Record) : Run Plugin := do
  let (loaded, _) ← Run.ofInquiry (r.ensureLoaded m.settings m.client)
  Run.ofResult .failure loaded

/-! ## Actions -/

/-- The report of an action. -/
def perform (m : Manner) : Action → Run String
  | .probe url => do
    let e ← Run.ofTask (probe m.client (m.settings.relayed url))
    return if m.isJson then jsonReport e.toRecord else endpointReport e
  | .parse url rootTag mapping source => do
    let mapping ← readMapping? mapping
    let p ← m.load url mapping
    let tag ← chooseRootTag p rootTag
    let expression ← readSource source
    let tree ← Run.ofTask (p.parse tag expression)
    return if m.isJson then jsonReport tree.toRecord else treeReport tree
  | .eval url rootTag context source => do
    let context ← Run.ofResult .badContext (Json.parse context)
    let p ← m.load url none
    let tag ← chooseRootTag p rootTag
    let expression ← readSource source
    let output ← Run.ofTask (p.eval tag expression context)
    return jsonReport (.ofOption output)
  | .option url key => do
    let p ← m.load url none
    return jsonReport (.ofOption (← Run.ofTask (p.getOption key)))
  | .recompile url grammar => do
    let source ← Run.readFile grammar
    let p ← m.load url none
    return jsonReport (.ofOption (← Run.ofTask (p.recompile source)))
  | .inspect url rootTag context offset source => do
    let p ← m.load url none
    let expression ← readSource source
    inspectWith m p expression context rootTag offset
  | .session path offset => do
    let s ← readSession path
    let p ← m.loadRecord (← activeOf s)
    inspectWith m p s.expression s.contextText s.grammarTag offset

/-! ## Runs -/

/-- What a run comes to: its exit code, and what it prints and complains. -/
structure Outcome where
  code : UInt32
  output : String
  complaint : String
deriving DecidableEq

/-- The name of the program and its version. -/
def versionText : String := "grammar-inspect 0.1.0\n"

/-- How the program is used. -/
def usageText : String := unlines [
  "Usage: grammar-inspect [OPTIONS] <COMMAND>",
  "",
  "Commands:",
  "  probe      Classify a grammar URL as live or static",
  "  parse      Parse an expression and print its tree",
  "  eval       Evaluate an expression against a JSON context",
  "  option     Read one grammar option",
  "  recompile  Recompile a live grammar from source",
  "  inspect    Print everything that is derived from an expression",
  "  session    Inspect the active grammar of a saved session"]

/-- What a run comes to that ends before any action. -/
def Halt.outcome : Halt → Outcome
  | .misuse => ⟨2, "", usageText⟩
  | .version => ⟨0, versionText, ""⟩
  | .help => ⟨0, usageText, ""⟩

/-- What an action comes to. -/
def outcomeOf : Except Problem String → Outcome
  | .ok report => ⟨0, report, ""⟩
  | .error problem => ⟨1, "", problem.render⟩

/-- How an invocation is done; `fresh` is the client when none is named. -/
def mannerOf (env : Environment) (fresh : String) (i : Invocation) : Manner :=
  let settings := Settings.ofEnvironment env
  { settings := { settings with timeout := i.timeout.getD settings.timeout }
    client := i.client.getD fresh
    isJson := i.isJson }

/-- The file of variables that a run looks for. -/
def variableFile : String := ".env"

/-- The environment with the variables of a file, if the file can be read. -/
def withVariables (env : Environment) : Except FileFault String → Environment
  | .ok text => env.withFile text
  | .error _ => env

/-- A run of the program with arguments, when its environment is complete. -/
def runIn (env : Environment) (fresh : String) (args : List String) :
    Dialogue Query Query.Answer Outcome :=
  match Invocation.read env args with
  | .error halt => .done halt.outcome
  | .ok i => do return outcomeOf (← (perform (mannerOf env fresh i) i.action).run)

/-- A run of the program with arguments in an environment, which a file may complete. -/
def run (env : Environment) (fresh : String) (args : List String) :
    Dialogue Query Query.Answer Outcome :=
  .ask (.file variableFile) fun text => runIn (withVariables env text) fresh args

end GrammarDesk.CommandLine
