import GrammarDesk.Dialogue
import GrammarDesk.Http.Exchange
import GrammarDesk.Tree.Result

/-!
# Calls to backends

What this library asks of the world: an HTTP request, the module for a URL, or a call of a function
of a module.  Whatever uses a backend is a dialogue over such calls, which may fail.

Main definitions:

- `Exports`, `Module`: a module, by its number and the functions it exports.
- `Call`, `Call.Answer`: the calls and the types of their answers.
- `Task`: a dialogue over calls that may fail.
-/

namespace GrammarDesk.Grammar

open Json GrammarDesk.Tree

/-- The functions that a module exports. -/
structure Exports where
  parse : Bool
  eval : Bool
  getOption : Bool
deriving DecidableEq

/-- A module exports everything. -/
def Exports.all : Exports := ⟨true, true, true⟩

/-- The exports by name. -/
def Exports.describe (e : Exports) : String :=
  Text.describeRecord "ModuleExports" [
    ("parse", Text.describeBool e.parse), ("eval", Text.describeBool e.eval),
    ("get_option", Text.describeBool e.getOption)]

/-- A module that runs in process.  Modules are told apart by their numbers. -/
structure Module where
  serial : Nat
  exports : Exports
deriving DecidableEq

/-! ## Calls -/

/-- A call of this library to the world. -/
inductive Call where
  /-- A request to a service. -/
  | send (request : Http.Request)
  /-- The module for a URL. -/
  | load (url : String)
  /-- The parse function of a module. -/
  | parse (m : Module) (client rootTag input : String)
  /-- The evaluation function of a module. -/
  | eval (m : Module) (client rootTag input : String) (context : Value)
  /-- The option function of a module. -/
  | getOption (m : Module) (client key : String)

/-- What a call is answered with.  A function of a module may have no result. -/
def Call.Answer : Call → Type
  | .send _ => Http.Reply
  | .load _ => Except Failure Module
  | .parse _ _ _ _ => Except Failure (Option RawResult)
  | .eval _ _ _ _ _ => Except Failure (Option RawResult)
  | .getOption _ _ _ => Except Failure (Option Value)

/-- Something that cannot fail, but calls. -/
abbrev Inquiry (α : Type) := Dialogue Call Call.Answer α

/-- Something that calls and may fail. -/
abbrev Task (α : Type) := ExceptT Failure (Dialogue Call Call.Answer) α

namespace Task

/-- The reply to a request. -/
def send (request : Http.Request) : Task Http.Reply :=
  ExceptT.lift (Dialogue.ask (Call.send request) .done)

/-- The module for a URL. -/
def load (url : String) : Task Module :=
  ExceptT.mk (Dialogue.ask (Call.load url) .done)

/-- The result of the parse function of a module. -/
def parse (m : Module) (client rootTag input : String) : Task (Option RawResult) :=
  ExceptT.mk (Dialogue.ask (Call.parse m client rootTag input) .done)

/-- The result of the evaluation function of a module. -/
def eval (m : Module) (client rootTag input : String) (context : Value) :
    Task (Option RawResult) :=
  ExceptT.mk (Dialogue.ask (Call.eval m client rootTag input context) .done)

/-- The result of the option function of a module. -/
def getOption (m : Module) (client key : String) : Task (Option Value) :=
  ExceptT.mk (Dialogue.ask (Call.getOption m client key) .done)

/-- The result of a task or its failure, as something that cannot fail. -/
def attempt {α : Type} (t : Task α) : Inquiry (Except Failure α) := t.run

/-- A reading of JSON as a task. -/
def ofReading {α : Type} : Except Fault α → Task α
  | .ok a => pure a
  | .error fault => throw (.json fault)

end Task

end GrammarDesk.Grammar
