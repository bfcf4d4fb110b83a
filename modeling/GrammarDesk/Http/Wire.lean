import GrammarDesk.Http.Exchange

/-!
# A wire to a scripted service

A service that answers from a list of routes.  A route takes a request of its method and address
whose query holds the route's own parts, at most as often as it says; the first one that takes the
request answers, and a request that no route takes is not found.  The wire between client and
service may also be cut, and then no request arrives.

Main definitions:

- `Route`: a rule of a service.
- `Wire`: the way to a service, and the requests that arrived.
- `Wire.send`: what comes back for a request.
-/

namespace GrammarDesk.Http

/-- What a route does with a request that it takes. -/
inductive RouteAction where
  | drop
  | hang
  | answer (status : Nat) (contentType : Option String) (body : String)

/-- A rule of a service: the requests that it takes, how often it may be used, and what it
does. -/
structure Route where
  method : String
  address : String
  parts : List String
  uses : Option Nat
  action : RouteAction

/-- A request as it arrives. -/
structure Arrival where
  method : Method
  url : Url
  body : Option String
deriving DecidableEq

namespace Route

/-- The URL without its query. -/
def addressOf (u : Url) : String := { u with query := none : Url }.render

/-- The parts of a query between its ampersands. -/
def partsOf (u : Url) : List String :=
  match u.query with
  | some q => Text.pieces '&' q
  | none => []

/-- The route takes the request. -/
def takes (r : Route) (a : Arrival) : Bool :=
  r.method == a.method.name && r.address == addressOf a.url
    && r.parts.all ((partsOf a.url).contains ·) && r.uses != some 0

/-- The route after one use. -/
def used (r : Route) : Route := { r with uses := r.uses.map (· - 1) }

/-- An answer to this method with this status carries a text. -/
def hasBody (method : Method) (status : Nat) : Bool :=
  method ≠ .head && status ≠ 204 && status ≠ 304

/-- A header is readable when it holds visible ASCII characters, spaces and tabs only. -/
def isReadable (s : String) : Bool :=
  s.toList.all fun c => c = '\t' || (0x20 ≤ c.toNat && c.toNat < 0x7F)

/-- What comes back for a request that the route takes. -/
def reply (r : Route) (a : Arrival) : Reply :=
  match r.action with
  | .drop => .lost (.unsent a.url.render)
  | .hang => .late
  | .answer status contentType body =>
    .answered status (contentType.filter isReadable) (if hasBody a.method status then body else "")

/-- The reply of the first route that takes the request, and the routes after it was used. -/
def serve (a : Arrival) : List Route → Reply × List Route
  | [] => (.answered 404 none "", [])
  | r :: rest =>
    if r.takes a then (r.reply a, r.used :: rest)
    else
      let (reply, rest) := serve a rest
      (reply, r :: rest)

end Route

/-- The way to a service: whether it is whole, the routes of the service, and the requests that
arrived there. -/
structure Wire where
  isWhole : Bool
  routes : List Route
  arrivals : List Arrival

/-- What comes back for a request.  A request that cannot be sent, or is sent over a cut wire, is
lost without a trace. -/
def Wire.send (w : Wire) (r : Request) : Reply × Wire :=
  match w.isWhole, r.target? with
  | true, some url =>
    let arrival : Arrival := ⟨r.method, url, r.body⟩
    let (reply, routes) := Route.serve arrival w.routes
    (reply, { w with routes := routes, arrivals := w.arrivals ++ [arrival] })
  | _, _ => (r.unsent, w)

end GrammarDesk.Http
