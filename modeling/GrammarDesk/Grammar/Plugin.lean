import GrammarDesk.Grammar.Adapter

/-!
# Plugins

A plugin is one loaded grammar.  It checks what its backend offers before it calls, and turns the
results of parses into trees through its field mapping.

Main definitions:

- `Plugin`: an adapter, a mapping, and the endpoint it was loaded from.
- `Plugin.parse`, `Plugin.eval`: the tree and the value of an input.
- `Plugin.getOption`, `Plugin.rootTags`, `Plugin.recompile`: the other calls.
- `stringList`: the texts of an option that lists texts.
-/

namespace GrammarDesk.Grammar

open Json GrammarDesk.Tree

/-- The texts that an option lists; a text alone is a list of one, and all else is left out. -/
def stringList : Option Value → List String
  | some (.array items) => items.filterMap fun
    | .string s => some s
    | _ => none
  | some (.string s) => [s]
  | _ => []

/-- One loaded grammar. -/
structure Plugin where
  adapter : Adapter
  mapping : Mapping
  /-- Where the grammar was loaded from, if it was. -/
  endpoint : Option Endpoint
deriving DecidableEq

namespace Plugin

/-- A plugin around an adapter, with the fields' own names unless there is a mapping. -/
def ofAdapter (a : Adapter) (mapping : Option Mapping) : Plugin :=
  ⟨a, mapping.getD .identity, none⟩

/-- How the backend is reached. -/
def transport (p : Plugin) : Transport := p.adapter.transport

/-- The calls that the backend offers. -/
def capabilities (p : Plugin) : Capabilities := p.adapter.capabilities

/-- The tree of a result, which has to be there and not empty. -/
def treeOf (p : Plugin) : Option RawResult → Except Failure Node
  | none => .error .parseUnavailable
  | some raw => if raw.isFalsy then .error .emptyResult else normalize raw p.mapping

/-- The tree of an input, from a production on. -/
def parse (p : Plugin) (rootTag input : String) : Task Node := do
  if p.capabilities.parse then
    let raw ← p.adapter.eval (.parse rootTag input)
    ExceptT.mk (pure (p.treeOf raw))
  else
    throw .parseUnavailable

/-- The value of a result; null is none. -/
def valueOf (raw : Option RawResult) : Option Value :=
  (raw.map RawResult.toValue).filter (!·.isNull)

/-- The value of an input in a context, if the backend gives one. -/
def eval (p : Plugin) (rootTag input : String) (context : Value) : Task (Option Value) := do
  if p.capabilities.eval then
    let raw ← p.adapter.eval (.run rootTag input context)
    return valueOf raw
  else
    throw .evalUnavailable

/-- The value of an option, if it is offered. -/
def getOption (p : Plugin) (key : String) : Task (Option Value) :=
  if p.capabilities.getOption then p.adapter.getOption key else pure none

/-- The productions that the grammar advertises as starts of a parse. -/
def rootTags (p : Plugin) : Task (List String) := do
  return stringList (← p.getOption rootTagsKey)

/-- The status of a compilation from source, if it is offered. -/
def recompile (p : Plugin) (source : String) : Task (Option Value) :=
  if p.capabilities.recompile then p.adapter.recompile source
  else throw (.unsupported recompileOperation)

/-- The plugin by its parts. -/
def describe (p : Plugin) : String :=
  Text.describeRecord "GrammarPlugin" [
    ("transport", p.transport.describe),
    ("endpoint", Text.describeOption (p.endpoint.map fun e => Text.quote e.resolvedUrl)),
    ("mapping", p.mapping.describe)]

end Plugin

/-- A module's adapter by its parts. -/
def Adapter.describe : Adapter → String
  | .module m client =>
    Text.describeRecord "StaticAdapter" [
      ("client_id", Text.quote client), ("exports", m.exports.describe)]
  | .live baseUrl client recompiles =>
    Text.describeRecord "LiveAdapter" [
      ("base_url", Text.quote baseUrl), ("client_id", Text.quote client),
      ("supports_recompile", Text.describeBool recompiles)]

end GrammarDesk.Grammar
