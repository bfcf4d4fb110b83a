import GrammarDesk.Json.Reader.Shaped

/-!
# Endpoints

A grammar's backend is reached in one of two ways: as a module that is served as a file and runs in
process, or as a live service that is called over HTTP.

Main definitions:

- `Transport`, `EvalMode`: the ways to reach a backend, and what an evaluation asks of it.
- `Endpoint`: a backend that answered to its URL.
- `Option` keys: the names of the options that this library reads.
-/

namespace GrammarDesk.Grammar

open Json

/-! ## Transports and modes -/

/-- How a backend is reached. -/
inductive Transport where
  /-- A module, served as a file. -/
  | static
  /-- A service that is called. -/
  | live
deriving DecidableEq

namespace Transport

/-- The name of a transport. -/
def name : Transport → String
  | .static => "STATIC"
  | .live => "LIVE"

/-- The transport in words. -/
def describe : Transport → String
  | .static => "Static"
  | .live => "Live"

/-- The transport of a name. -/
def ofName (name : String) : Transport :=
  if name = live.name then .live else .static

/-- What a transport has to be when it is read. -/
def shape : Shape := .variant static.name live.name

/-- The transport of a value in normal form. -/
def ofNormal : Value → Transport
  | .string s => ofName s
  | _ => .static

/-- The transport that a text writes. -/
def ofText (text : String) : Except Fault Transport :=
  (shape.read text).map ofNormal

end Transport

/-- What an evaluation asks for: a tree, or the value of the input. -/
inductive EvalMode where
  | parse
  | run
deriving DecidableEq

namespace EvalMode

/-- The name of a mode. -/
def name : EvalMode → String
  | .parse => "PARSE"
  | .run => "RUN"

/-- The mode of a name. -/
def ofName (name : String) : EvalMode :=
  if name = run.name then .run else .parse

/-- What a mode has to be when it is read. -/
def shape : Shape := .variant parse.name run.name

/-- The mode of a value in normal form. -/
def ofNormal : Value → EvalMode
  | .string s => ofName s
  | _ => .parse

/-- The mode that a text writes. -/
def ofText (text : String) : Except Fault EvalMode :=
  (shape.read text).map ofNormal

end EvalMode

/-! ## Options and capabilities -/

/-- The option that names the kind of an endpoint. -/
def endpointTypeKey : String := "endpointType"

/-- The option that lists capabilities. -/
def supportsKey : String := "supports"

/-- The option that lists the productions that a parse may start with. -/
def rootTagsKey : String := "rootTags"

/-- The option with the URL of an editor for the grammar. -/
def editorUrlKey : String := "editorUrl"

/-- The option with the mapping of the grammar's trees. -/
def jsonMappingKey : String := "jsonMapping"

/-- The capability of a grammar that can be compiled anew. -/
def recompileCapability : String := "supports-recompile"

/-! ## Endpoints -/

/-- A backend that answered to its URL. -/
structure Endpoint where
  /-- The URL as it was given. -/
  url : String
  transport : Transport
  capabilities : List String
  /-- Where calls go: the base of a service, or the file of a module. -/
  resolvedUrl : String
deriving DecidableEq

namespace Endpoint

/-- The endpoint lists the capability. -/
def supports (e : Endpoint) (capability : String) : Bool := e.capabilities.contains capability

/-- The endpoint as an object in the order of declaration. -/
def toRecord (e : Endpoint) : Value :=
  .object [("url", .string e.url), ("transport", .string e.transport.name),
    ("capabilities", .ofStrings e.capabilities), ("resolvedUrl", .string e.resolvedUrl)]

/-- What an endpoint has to be when it is read. -/
def shape : Shape :=
  .record "GrammarEndpoint" [
    .required "url" .text, .required "transport" Transport.shape,
    .required "capabilities" (.list .text), .required "resolvedUrl" .text]

/-- The endpoint of a value in normal form. -/
def ofNormal (v : Value) : Endpoint where
  url := v.textAt "url" ""
  transport := .ofName (v.textAt "transport" "")
  capabilities := v.textsAt "capabilities"
  resolvedUrl := v.textAt "resolvedUrl" ""

/-- The endpoint that a value holds. -/
def ofValue (v : Value) : Except Fault Endpoint :=
  (shape.check v).map ofNormal

/-- The endpoint that a text writes. -/
def ofText (text : String) : Except Fault Endpoint :=
  (shape.read text).map ofNormal

end Endpoint

end GrammarDesk.Grammar
