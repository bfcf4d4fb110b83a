import GrammarDesk.Grammar.Call
import GrammarDesk.Grammar.Endpoint

/-!
# Adapters

An adapter offers the calls of one backend on behalf of one client, in the same form for both
transports.  A call that the backend does not offer has no result; that may show before the call,
in the capabilities, or only when it is made.

A live service is called below its base URL: `GET opt` for options, `POST eval` for parses and
evaluations, and `POST recompile`.  It says by the status 404 that it does not offer a call; any
status but 200 is a failure, and a blank answer is null.

Main definitions:

- `Adapter`: a live service or a module, with the client.
- `Capabilities`, `Adapter.capabilities`: the calls that are offered.
- `Adapter.eval`, `Adapter.getOption`, `Adapter.recompile`: the calls.
-/

namespace GrammarDesk.Grammar

open Json GrammarDesk.Tree

/-! ## Requests for evaluation -/

/-- What an evaluation is asked to do. -/
structure EvalRequest where
  rootTag : String
  input : String
  mode : EvalMode
  /-- The values of the input's names; a parse has no use for them. -/
  context : Option Value

namespace EvalRequest

/-- A request to parse. -/
def parse (rootTag input : String) : EvalRequest := ⟨rootTag, input, .parse, none⟩

/-- A request to evaluate in a context. -/
def run (rootTag input : String) (context : Value) : EvalRequest :=
  ⟨rootTag, input, .run, some context⟩

end EvalRequest

/-- The calls that an adapter offers. -/
structure Capabilities where
  parse : Bool
  eval : Bool
  getOption : Bool
  recompile : Bool
deriving DecidableEq

/-- The backend of a plugin, and the client for whom it is called. -/
inductive Adapter where
  /-- A live service, by its base URL. -/
  | live (baseUrl client : String) (recompiles : Bool)
  /-- A module that runs in process. -/
  | module (m : Module) (client : String)
deriving DecidableEq

/-- The name of the call that compiles a grammar anew. -/
def recompileOperation : String := "recompile"

/-! ## Live services -/

namespace Live

/-- Where options are asked for, below the base. -/
def optPath : String := "/opt"

/-- Where parses and evaluations are asked for, below the base. -/
def evalPath : String := "/eval"

/-- Where a grammar is compiled anew, below the base. -/
def recompilePath : String := "/recompile"

/-- The JSON text of an answer; a blank one is null. -/
def readBody (body : String) : Task Value :=
  if Text.isBlankText body then pure .null else Task.ofReading (parse body)

/-- The value of a reply to a call at an address, if the service offers the call. -/
def readReply (operation address : String) : Http.Reply → Task (Option Value)
  | .lost fault => throw (.transport fault)
  | .late => throw (.timeout address)
  | .answered status _ body =>
    if status = 404 then pure none
    else if status = 200 then some <$> readBody body
    else throw (.status operation address status (Http.reasonOf status))

/-- What a request for evaluation sends as its query. -/
def evalQuery (client : String) (r : EvalRequest) : List (String × String) :=
  let context := match r.mode, r.context with
    | .run, some context => [("ctx", context.render)]
    | _, _ => []
  [("clientId", client), ("rootTag", r.rootTag), ("mode", r.mode.name)] ++ context

/-- The result of an evaluation. -/
def eval (baseUrl client : String) (r : EvalRequest) : Task (Option RawResult) := do
  let address := baseUrl ++ evalPath
  let reply ← Task.send (.post address (evalQuery client r) r.input)
  let body ← readReply "eval" address reply
  return body.map .ofJson

/-- The value of an option: the answer itself, or what it binds to the option's key. -/
def extractOption (key : String) (body : Value) : Value :=
  (body.get? key).getD body

/-- The value of an option. -/
def getOption (baseUrl client key : String) : Task (Option Value) := do
  let address := baseUrl ++ optPath
  let reply ← Task.send (.get address [("clientId", client), ("key", key)])
  let body ← readReply "getOption" address reply
  return body.map (extractOption key)

/-- The status of a compilation. -/
def recompile (baseUrl client source : String) : Task (Option Value) := do
  let address := baseUrl ++ recompilePath
  let reply ← Task.send (.post address [("clientId", client)] source)
  readReply recompileOperation address reply

end Live

/-! ## Adapters -/

namespace Adapter

/-- The adapter of a live endpoint. -/
def ofLiveEndpoint (e : Endpoint) (client : String) : Adapter :=
  .live (Text.dropTrailing '/' e.resolvedUrl) client (e.supports recompileCapability)

/-- The adapter of an endpoint; a module is loaded first. -/
def ofEndpoint (e : Endpoint) (client : String) : Task Adapter :=
  match e.transport with
  | .live => pure (ofLiveEndpoint e client)
  | .static => do
    let m ← Task.load e.resolvedUrl
    return .module m client

/-- How the backend is reached. -/
def transport : Adapter → Transport
  | .live _ _ _ => .live
  | .module _ _ => .static

/-- The calls that the backend offers; a module is never compiled anew. -/
def capabilities : Adapter → Capabilities
  | .live _ _ recompiles => ⟨true, true, true, recompiles⟩
  | .module m _ => ⟨m.exports.parse, m.exports.eval, m.exports.getOption, false⟩

/-- The result of an evaluation, if there is one. -/
def eval (a : Adapter) (r : EvalRequest) : Task (Option RawResult) :=
  match a with
  | .live baseUrl client _ => Live.eval baseUrl client r
  | .module m client =>
    match r.mode with
    | .parse =>
      if m.exports.parse then Task.parse m client r.rootTag r.input
      else throw .parseUnavailable
    | .run =>
      if m.exports.eval then
        Task.eval m client r.rootTag r.input (r.context.getD (.object []))
      else throw .evalUnavailable

/-- The value of an option, if it is offered. -/
def getOption (a : Adapter) (key : String) : Task (Option Value) :=
  match a with
  | .live baseUrl client _ => Live.getOption baseUrl client key
  | .module m client =>
    if m.exports.getOption then Task.getOption m client key else pure none

/-- The status of a compilation, if it is offered. -/
def recompile (a : Adapter) (source : String) : Task (Option Value) :=
  match a with
  | .live baseUrl client recompiles =>
    if recompiles then Live.recompile baseUrl client source
    else throw (.unsupported recompileOperation)
  | .module _ _ => throw (.unsupported recompileOperation)

end Adapter

end GrammarDesk.Grammar
