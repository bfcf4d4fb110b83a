import GrammarDesk.CommandLine.Options
import GrammarDesk.Settings.Environment

/-!
# What is asked for

The arguments of the program name one of seven actions and how it is done.  Some options may stand
before the action or after it; after it they count more.

Main definitions:

- `Source`, `Action`, `Invocation`: what is asked for.
- `Invocation.read`: what arguments ask for.
-/

namespace GrammarDesk.CommandLine

/-! ## Types -/

/-- Where an expression is taken from. -/
inductive Source where
  | given (expression : String)
  | file (path : String)
  /-- The standard input. -/
  | input
deriving DecidableEq

/-- What is done. -/
inductive Action where
  /-- Finds out what kind of backend a URL belongs to. -/
  | probe (url : String)
  | parse (url : String) (rootTag mapping : Option String) (source : Source)
  | eval (url : String) (rootTag : Option String) (context : String) (source : Source)
  | option (url key : String)
  | recompile (url grammar : String)
  /-- Shows everything that is derived from the input. -/
  | inspect (url : String) (rootTag : Option String) (context : String) (offset : Option UInt64)
      (source : Source)
  /-- The same for the active grammar of a saved session. -/
  | session (path : String) (offset : Option UInt64)
deriving DecidableEq

/-- What is done, and how. -/
structure Invocation where
  action : Action
  /-- The client on whose behalf it is done, if that is said. -/
  client : Option String
  isJson : Bool
  timeout : Option UInt64
deriving DecidableEq

/-! ## Rules -/

/-- The variable with the client. -/
def clientVariable : String := "GRAMMAR_CLIENT_ID"

/-- The options that every command takes. -/
def sharedOptions : List OptionRule := [
  ⟨"client-id", none, some .text⟩, ⟨"json", none, none⟩, ⟨"verbose", some 'v', none⟩,
  ⟨"timeout-ms", none, some .number⟩]

/-- The options that name an expression. -/
def sourceOptions : List OptionRule := [
  ⟨"expr", some 'e', some .text⟩, ⟨"file", some 'f', some .path⟩]

/-- The option with the production to start from. -/
def rootTagOption : OptionRule := ⟨"root-tag", none, some .text⟩

/-- The option with the evaluation context. -/
def contextOption : OptionRule := ⟨"context", none, some .text⟩

/-- The option with the offset of a node. -/
def offsetOption : OptionRule := ⟨"offset", none, some .number⟩

/-- The rules of a command with options and words of its own. -/
def commandRules (options : List OptionRule) (words : List ValueKind) : Rules :=
  ⟨options ++ sharedOptions, words, [], false⟩

/-- The rules of each command. -/
def commands : List (String × Rules) := [
  ("probe", commandRules [] [.text]),
  ("parse", commandRules (rootTagOption :: ⟨"mapping", none, some .path⟩ :: sourceOptions) [.text]),
  ("eval", commandRules (rootTagOption :: contextOption :: sourceOptions) [.text]),
  ("option", commandRules [] [.text, .text]),
  ("recompile", commandRules [⟨"grammar", none, some .path⟩] [.text]),
  ("inspect",
    commandRules (rootTagOption :: contextOption :: offsetOption :: sourceOptions) [.text]),
  ("session", commandRules [offsetOption] [.path])]

/-- The rules of the program. -/
def programRules : Rules :=
  ⟨sharedOptions, [], commands.map (·.1) ++ [helpName], true⟩

/-! ## Reading -/

/-- The value of an option that may stand before the command or after it. -/
def sharedValue? (outer inner : Reading) (name : String) : Option String :=
  (inner.value? name).or (outer.value? name)

/-- The number of an option. -/
def numberOf? (value : Option String) : Option UInt64 := value.bind Text.readUnsigned?

/-- Where the expression is taken from; it is given in one way only. -/
def sourceOf (r : Reading) : Except Halt Source :=
  match r.value? "expr", r.value? "file" with
  | some _, some _ => .error .misuse
  | some expression, none => .ok (.given expression)
  | none, some path => .ok (.file path)
  | none, none => .ok .input

/-- The context that is used when none is given. -/
def defaultContext : String := "\x7b\x7d"

/-- The action of a command whose arguments were read. -/
def actionOf (command : String) (r : Reading) : Except Halt Action :=
  let rootTag := r.value? "root-tag"
  let context := (r.value? "context").getD defaultContext
  let offset := numberOf? (r.value? "offset")
  match command, r.words with
  | "probe", [url] => .ok (.probe url)
  | "parse", [url] => return .parse url rootTag (r.value? "mapping") (← sourceOf r)
  | "eval", [url] => return .eval url rootTag context (← sourceOf r)
  | "option", [url, key] => .ok (.option url key)
  | "recompile", [url] =>
    match r.value? "grammar" with
    | some grammar => .ok (.recompile url grammar)
    | none => .error .misuse
  | "inspect", [url] => return .inspect url rootTag context offset (← sourceOf r)
  | "session", [path] => .ok (.session path offset)
  | _, _ => .error .misuse

/-- What a request for help with commands comes to. -/
def helpWith (names : List String) : Halt :=
  match names with
  | [] => .help
  | [name] => if programRules.commands.contains name then .help else .misuse
  | _ => .misuse

/-- What arguments ask for. -/
def Invocation.read (env : Environment) (args : List String) : Except Halt Invocation := do
  let outer ← programRules.read args
  match outer.command with
  | none => .error .misuse
  | some (command, rest) =>
    match commands.lookup command with
    | none => .error (helpWith rest)
    | some rules =>
      let inner ← rules.read rest
      let action ← actionOf command inner
      return {
        action := action
        client := (sharedValue? outer inner "client-id").or (env clientVariable)
        isJson := (sharedValue? outer inner "json").isSome
        timeout := numberOf? (sharedValue? outer inner "timeout-ms") }

end GrammarDesk.CommandLine
