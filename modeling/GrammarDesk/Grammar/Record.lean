import GrammarDesk.Grammar.Loader

/-!
# Grammar records

A record is an entry of the user's list of grammars: where the grammar is, how its trees are
mapped, and what it advertises.  Its plugin is loaded on first use and can be loaded anew; when that
fails, the record keeps the plugin it has and remembers the message.

Main definitions:

- `Record`: an entry of the list.
- `Record.toJson`, `Record.ofText`: the saved part of a record.
- `Record.refresh`: what a plugin advertises, taken over into the record.
- `Record.ensureLoaded`, `Record.reload`: the plugin of a record, and a new one.
- `find?`, `findIndex?`: the record for a URL.
-/

namespace GrammarDesk.Grammar

open Json GrammarDesk.Tree

/-- An entry of the user's list of grammars. -/
structure Record where
  name : String
  url : String
  jsonMapping : Option Mapping
  rootTags : List String
  /-- Shipped with the tool, not added by the user. -/
  predefined : Bool
  supports : List String
  editorUrl : Option String
  plugin : Option Plugin
  /-- The message of the last load, if it failed. -/
  loadError : Option String
deriving DecidableEq

namespace Record

/-- A record of a name and a URL. -/
def fresh (name url : String) : Record :=
  ⟨name, url, none, [], false, [], none, none, none⟩

/-- The record lists the capability. -/
def offers (r : Record) (capability : String) : Bool := r.supports.contains capability

/-- The record has a plugin. -/
def isLoaded (r : Record) : Bool := r.plugin.isSome

/-! ## Saved records -/

/-- An entry for a field that is left out when it is absent. -/
def entry? (key : String) : Option Value → Entries
  | none => []
  | some v => [(key, v)]

/-- The saved part of a record as an object in the order of declaration. -/
def toJson (r : Record) : Value :=
  .object ([("name", .string r.name), ("url", .string r.url)]
    ++ entry? "jsonMapping" (r.jsonMapping.map Mapping.toRecord)
    ++ [("rootTags", .ofStrings r.rootTags), ("predefined", .bool r.predefined),
      ("supports", .ofStrings r.supports)]
    ++ entry? "externalEditorUrl" (r.editorUrl.map .string))

/-- What a saved record has to be. -/
def shape : Shape :=
  .record "EditorGrammar" [
    .required "name" .text, .required "url" .text, .nullable "jsonMapping" Mapping.shape,
    .optional "rootTags" (.list .text), .optional "predefined" .boolean,
    .optional "supports" (.list .text), .nullable "externalEditorUrl" .text]

/-- The mapping of a field that may be absent or null. -/
def mappingAt? (v : Value) (key : String) : Option Mapping :=
  ((v.get? key).filter (!·.isNull)).map Mapping.ofNormal

/-- The record of a value in normal form; it has no plugin. -/
def ofNormal (v : Value) : Record where
  name := v.textAt "name" ""
  url := v.textAt "url" ""
  jsonMapping := mappingAt? v "jsonMapping"
  rootTags := v.textsAt "rootTags"
  predefined := v.boolAt "predefined"
  supports := v.textsAt "supports"
  editorUrl := v.textAt? "externalEditorUrl"
  plugin := none
  loadError := none

/-- The record that a value holds. -/
def ofValue (v : Value) : Except Fault Record :=
  (shape.check v).map ofNormal

/-- The record that a text writes. -/
def ofText (text : String) : Except Fault Record :=
  (shape.read text).map ofNormal

/-! ## What a plugin advertises -/

/-- The value of an option; any trouble counts as none. -/
def optionOrNone (p : Plugin) (key : String) : Inquiry (Option Value) := do
  return ((← Task.attempt (p.getOption key)).toOption).join

/-- The capabilities of a plugin: those of its endpoint, or else those it advertises. -/
def capabilitiesOf (p : Plugin) : Inquiry (List String) :=
  match (p.endpoint.map (·.capabilities)).filter (!·.isEmpty) with
  | some capabilities => pure capabilities
  | none => do return stringList (← optionOrNone p supportsKey)

/-- The URL of an editor, which is a text that is not empty. -/
def editorOf? : Option Value → Option String
  | some (.string url) => if url.isEmpty then none else some url
  | _ => none

/-- The productions that a list of them replaces; an empty list replaces nothing. -/
def replaceTags (old : List String) : Except Failure (List String) → List String
  | .ok tags => if tags.isEmpty then old else tags
  | .error _ => old

/-- The record with what a plugin advertises. -/
def refresh (r : Record) (p : Plugin) : Inquiry Record := do
  let supports ← capabilitiesOf p
  let editor ← optionOrNone p editorUrlKey
  let tags ← Task.attempt p.rootTags
  return { r with
    supports := supports
    editorUrl := editorOf? editor
    rootTags := replaceTags r.rootTags tags }

/-- The record of a plugin that is loaded already; it is named by its URL. -/
def ofPlugin (url : String) (p : Plugin) : Inquiry Record := do
  let r ← (fresh url url).refresh p
  return { r with plugin := some p }

/-! ## Loading -/

/-- Loads a new plugin, which replaces the record's own if that succeeds. -/
def reload (r : Record) (settings : Settings) (client : String) :
    Inquiry (Except Failure Plugin × Record) := do
  match ← Task.attempt (load settings client r.url r.jsonMapping) with
  | .ok p =>
    let r ← r.refresh p
    return (.ok p, { r with plugin := some p, loadError := none })
  | .error failure =>
    return (.error failure, { r with loadError := some failure.message })

/-- The plugin of the record, which is loaded if there is none yet. -/
def ensureLoaded (r : Record) (settings : Settings) (client : String) :
    Inquiry (Except Failure Plugin × Record) :=
  match r.plugin with
  | some p => pure (.ok p, r)
  | none => r.reload settings client

end Record

/-! ## Lists of records -/

/-- The first record for a URL. -/
def find? (records : List Record) (url : String) : Option Record :=
  records.find? (·.url = url)

/-- The place of the first record for a URL. -/
def findIndex? (records : List Record) (url : String) : Option Nat :=
  records.findIdx? (·.url = url)

end GrammarDesk.Grammar
