/-!
# Why a request is lost

What the transport says when a request cannot be sent, or when the connection breaks before the
answer is there.  The wording is the transport's own; it is handed on as it is.

Main definitions:

- `Http.Fault`: what the transport says of a lost request.
- `Http.Fault.unsent`: its words for a request that could not be sent.
-/

namespace GrammarDesk.Http

/-- What the transport says of a request that is lost. -/
structure Fault where
  message : String
  /-- The wordings of the faults behind it, the nearest first. -/
  causes : List String
deriving DecidableEq

/-- The fault of a request to a URL that could not be sent. -/
def Fault.unsent (url : String) : Fault :=
  ⟨"error sending request for url (" ++ url ++ ")", []⟩

end GrammarDesk.Http
