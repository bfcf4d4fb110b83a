import GrammarDesk.Grammar.Plugin
import GrammarDesk.Grammar.Probe
import GrammarDesk.Settings.Environment

/-!
# Loading a grammar

Loading goes from a URL over its endpoint and adapter to a plugin.  The relay is applied first.
When no mapping is given, the one that the backend advertises is used, if it can be read; the
question for it never makes loading fail.

Main definitions:

- `advertisedMapping`: the mapping that a backend advertises.
- `load`: the plugin at a URL, or a failure to load that carries the URL as given.
-/

namespace GrammarDesk.Grammar

open Json GrammarDesk.Tree

/-- The mapping that an option writes, if it is an object that can be read as one. -/
def mappingOfOption? : Except Failure (Option Value) → Option Mapping
  | .ok (some v) => if v.isObject then (Mapping.ofValue v).toOption else none
  | _ => none

/-- The mapping that a backend advertises; any trouble counts as none. -/
def advertisedMapping (p : Plugin) : Inquiry (Option Mapping) := do
  return mappingOfOption? (← Task.attempt (p.getOption jsonMappingKey))

/-- The mapping of a plugin: the given one, or else the advertised one. -/
def chooseMapping (p : Plugin) (given : Option Mapping) : Inquiry Plugin :=
  match given with
  | some _ => pure p
  | none => do
    match ← advertisedMapping p with
    | some advertised => return { p with mapping := advertised }
    | none => return p

/-- The plugin at a URL that has been relayed already. -/
def loadFrom (client target : String) (mapping : Option Mapping) : Task Plugin := do
  let endpoint ← probe client target
  let adapter ← Adapter.ofEndpoint endpoint client
  let plugin ← ExceptT.lift (chooseMapping (.ofAdapter adapter mapping) mapping)
  return { plugin with endpoint := some endpoint }

/-- The plugin at a URL, for a client. -/
def load (settings : Settings) (client url : String) (mapping : Option Mapping) : Task Plugin :=
  ExceptT.mk do
    match ← (loadFrom client (settings.relayed url) mapping).run with
    | .ok plugin => return .ok plugin
    | .error cause => return .error (.load url cause)

/-- The loader by its settings. -/
def describeLoader (settings : Settings) : String :=
  Text.describeRecord "GrammarLoader" [("config", settings.describe)]

end GrammarDesk.Grammar
