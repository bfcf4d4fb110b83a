import GrammarDesk.Http.Fault
import GrammarDesk.Url.Basic

/-!
# HTTP requests and replies

What a client of this library says and hears.  A request names its address as text, with the pairs
that go into the query; only an absolute URL can be sent to.  A reply is an answer with a status,
or word that none came.

Main definitions:

- `Request`: a request, before its address is read.
- `Request.target?`: the URL that the request goes to.
- `Reply`: an answer, or how it was lost.
- `Request.unsent`: the reply to a request that could not be sent.
- `reasonOf`: the standard phrase for a status.
-/

namespace GrammarDesk.Http

/-! ## Requests -/

/-- The methods in use. -/
inductive Method where
  | get
  | head
  | post
deriving DecidableEq

/-- The name of a method. -/
def Method.name : Method → String
  | .get => "GET"
  | .head => "HEAD"
  | .post => "POST"

/-- A request: its method, the address, the pairs to be added to the query, and for a POST the
text to be sent. -/
structure Request where
  method : Method
  address : String
  query : List (String × String)
  body : Option String
deriving DecidableEq

namespace Request

/-- A request to read. -/
def get (address : String) (query : List (String × String)) : Request :=
  ⟨.get, address, query, none⟩

/-- A request for the head of an answer. -/
def head (address : String) (query : List (String × String)) : Request :=
  ⟨.head, address, query, none⟩

/-- A request with a text. -/
def post (address : String) (query : List (String × String)) (body : String) : Request :=
  ⟨.post, address, query, some body⟩

/-- The kind of text that requests carry. -/
def contentType : String := "text/plain; charset=utf-8"

/-- The URL that a request goes to, if its address is one of the plain web. -/
def target? (r : Request) : Option Url :=
  match Url.parse r.address with
  | .ok u => if u.scheme == "http" then some (u.addPairs r.query) else none
  | .error _ => none

end Request

/-! ## Replies -/

/-- What comes back for a request. -/
inductive Reply where
  /-- The request could not be sent, or the connection broke. -/
  | lost (fault : Fault)
  /-- No answer came in time. -/
  | late
  /-- An answer: its status, its content type if that is readable text, and its text. -/
  | answered (status : Nat) (contentType : Option String) (body : String)

/-- The reply to a request that could not be sent. -/
def Request.unsent (r : Request) : Reply :=
  .lost (.unsent ((r.target?.map Url.render).getD r.address))

/-- The standard phrase for a status; an unknown status has none. -/
def reasonOf (status : Nat) : String :=
  match status with
  | 100 => "Continue"
  | 101 => "Switching Protocols"
  | 102 => "Processing"
  | 103 => "Early Hints"
  | 200 => "OK"
  | 201 => "Created"
  | 202 => "Accepted"
  | 203 => "Non Authoritative Information"
  | 204 => "No Content"
  | 205 => "Reset Content"
  | 206 => "Partial Content"
  | 207 => "Multi-Status"
  | 208 => "Already Reported"
  | 226 => "IM Used"
  | 300 => "Multiple Choices"
  | 301 => "Moved Permanently"
  | 302 => "Found"
  | 303 => "See Other"
  | 304 => "Not Modified"
  | 305 => "Use Proxy"
  | 307 => "Temporary Redirect"
  | 308 => "Permanent Redirect"
  | 400 => "Bad Request"
  | 401 => "Unauthorized"
  | 402 => "Payment Required"
  | 403 => "Forbidden"
  | 404 => "Not Found"
  | 405 => "Method Not Allowed"
  | 406 => "Not Acceptable"
  | 407 => "Proxy Authentication Required"
  | 408 => "Request Timeout"
  | 409 => "Conflict"
  | 410 => "Gone"
  | 411 => "Length Required"
  | 412 => "Precondition Failed"
  | 413 => "Payload Too Large"
  | 414 => "URI Too Long"
  | 415 => "Unsupported Media Type"
  | 416 => "Range Not Satisfiable"
  | 417 => "Expectation Failed"
  | 418 => "I'm a teapot"
  | 421 => "Misdirected Request"
  | 422 => "Unprocessable Entity"
  | 423 => "Locked"
  | 424 => "Failed Dependency"
  | 426 => "Upgrade Required"
  | 428 => "Precondition Required"
  | 429 => "Too Many Requests"
  | 431 => "Request Header Fields Too Large"
  | 451 => "Unavailable For Legal Reasons"
  | 500 => "Internal Server Error"
  | 501 => "Not Implemented"
  | 502 => "Bad Gateway"
  | 503 => "Service Unavailable"
  | 504 => "Gateway Timeout"
  | 505 => "HTTP Version Not Supported"
  | 506 => "Variant Also Negotiates"
  | 507 => "Insufficient Storage"
  | 508 => "Loop Detected"
  | 510 => "Not Extended"
  | 511 => "Network Authentication Required"
  | _ => ""

end GrammarDesk.Http
