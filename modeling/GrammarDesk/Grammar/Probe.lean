import GrammarDesk.Grammar.Adapter
import GrammarDesk.Grammar.Registry

/-!
# Probing a URL

Whether a URL belongs to a live service or to a module is found out by asking.  A live service
answers the query for its capabilities; otherwise the files of a module are looked for, the second
one only if the first is absent or cannot be reached.

Main definitions:

- `baseOf`: the base that paths are appended to.
- `liveCapabilities?`: the capabilities that an answer lists, if it is that of a live service.
- `probe`: the endpoint at a URL.
-/

namespace GrammarDesk.Grammar

open Json

/-- A URL without blanks around it and slashes behind it, checked to be one. -/
def baseOf (url : String) : Except Failure String :=
  let base := registryKey url
  match Url.parse base with
  | .ok _ => .ok base
  | .error fault => .error (.invalidUrl url fault)

/-! ## Live services -/

/-- What the answer to the query for capabilities has to be. -/
def capabilityShape : Shape :=
  .record "CapabilityResponse" [
    .nullable endpointTypeKey .text, .optional supportsKey (.list .text)]

/-- The kind that a live service says it is. -/
def liveType : String := "LIVE"

/-- The capabilities that a text lists, if it is the answer of a live service. -/
def capabilitiesOf? (body : String) : Option (List String) :=
  match capabilityShape.read body with
  | .ok v =>
    if v.textAt? endpointTypeKey = some liveType then some (v.textsAt supportsKey) else none
  | .error _ => none

/-- The capabilities that a reply lists, if it is the reply of a live service. -/
def liveCapabilities? : Http.Reply → Option (List String)
  | .answered 200 _ body => capabilitiesOf? body
  | _ => none

/-- The query for capabilities. -/
def capabilityRequest (client base : String) : Http.Request :=
  .get (base ++ Live.optPath)
    [("clientId", client), ("key", endpointTypeKey ++ "," ++ supportsKey)]

/-! ## Modules -/

/-- What the content type of a module mentions, in any case. -/
def scriptMarker : String := "javascript"

/-- The content type is that of a script. -/
def isScript (contentType : Option String) : Bool :=
  contentType.any fun s => Text.occursIn scriptMarker.toList (s.toList.map Char.toLower)

/-- The request for a file of a module. -/
def fileRequest (client file : String) : Http.Request :=
  .head file [("clientId", client)]

/-- What a reply says about the file of a module. -/
inductive FileFinding where
  | module
  | absent
  | other
deriving DecidableEq

/-- What a reply says: not found and not reached are the same. -/
def findingOf : Http.Reply → FileFinding
  | .answered status contentType _ =>
    if status = 404 then .absent
    else if status = 200 && isScript contentType then .module
    else .other
  | .lost _ => .absent
  | .late => .absent

/-- The first of the files that is a module; the search ends at one that is there and is none. -/
def findFile (client : String) : List String → Task (Option String)
  | [] => pure none
  | file :: others => do
    match findingOf (← Task.send (fileRequest client file)) with
    | .module => pure (some file)
    | .absent => findFile client others
    | .other => pure none

/-! ## Probing -/

/-- The endpoint at a URL, for a client. -/
def probe (client url : String) : Task Endpoint := do
  let base ← ExceptT.mk (pure (baseOf url))
  match liveCapabilities? (← Task.send (capabilityRequest client base)) with
  | some capabilities => pure ⟨url, .live, capabilities, base⟩
  | none =>
    match ← findFile client (moduleFiles.map (base ++ ·)) with
    | some file => pure ⟨url, .static, [], file⟩
    | none => throw (.unreachable url)

end GrammarDesk.Grammar
