import GrammarDesk.Http.Fault
import GrammarDesk.Json.Fault
import GrammarDesk.Url.Fault
import GrammarDesk.Text.Decimal

/-!
# Failures

Everything that can go wrong between this library and a grammar's backend: finding it, loading it,
calling it, and making sense of its answers.  What a user types wrongly is no failure; it is
reported in the state that is derived from the input.

Main definitions:

- `Failure`: the causes.
- `Failure.message`: the wording of a failure.
- `Failure.sources`: the wordings of the failures behind it, the nearest first.
- `Failure.isContractViolation`: the backend answered, but not as agreed.

Main results:

- `Failure.exists_message_eq_append`: the wording tells what is behind the failure.
-/

namespace GrammarDesk

/-- A failure of a grammar's backend or of the way to it. -/
inductive Failure where
  /-- Neither a live service nor a module answers at the URL. -/
  | unreachable (url : String)
  /-- Loading the grammar at the URL failed for the given cause. -/
  | load (url : String) (cause : Failure)
  | parseUnavailable
  | evalUnavailable
  | emptyResult
  | unsupported (operation : String)
  | missingMapping
  /-- A value that is no tree; the hint is its text, cut short. -/
  | unknownShape (hint : String)
  | moduleNotFound (url : String)
  /-- A module reports a failure of its own. -/
  | module (text : String)
  /-- A live service answered with a status that is neither success nor absence. -/
  | status (operation url : String) (code : Nat) (reason : String)
  | timeout (url : String)
  | invalidUrl (url : String) (fault : Url.Fault)
  /-- The request or its answer was lost. -/
  | transport (fault : Http.Fault)
  | json (fault : Json.Fault)

namespace Failure

/-- The wording of a failure. -/
def message : Failure → String
  | .unreachable url => "Invalid grammar endpoint: " ++ url
  | .load url cause => "Error loading grammar from " ++ url ++ ": " ++ cause.message
  | .parseUnavailable => "Grammar does not offer a parse capability"
  | .evalUnavailable => "Grammar does not offer an eval capability"
  | .emptyResult => "Grammar returned an empty result"
  | .unsupported operation => "Attempt to call unsupported " ++ operation
  | .missingMapping => "No mapping provided with JSON result"
  | .unknownShape hint => "Unknown result shape: " ++ hint
  | .moduleNotFound url => "No grammar module registered for " ++ url
  | .module text => "Grammar module failed: " ++ text
  | .status operation url code reason =>
    operation ++ " failed at " ++ url ++ ": HTTP " ++ Text.decimal code ++ " " ++ reason
  | .timeout url => "Request to " ++ url ++ " timed out"
  | .invalidUrl url fault => "Invalid URL '" ++ url ++ "': " ++ fault.message
  | .transport fault => "HTTP error: " ++ fault.message
  | .json fault => "JSON error: " ++ fault.message

/-- The wordings of the failures behind a failure, the nearest first. -/
def sources : Failure → List String
  | .load _ cause => cause.message :: cause.sources
  | .invalidUrl _ fault => [fault.message]
  | .transport fault => fault.message :: fault.causes
  | .json fault => [fault.message]
  | _ => []

/-- The wording of a failure ends with that of the nearest failure behind it. -/
theorem exists_message_eq_append {f : Failure} {text : String}
    (h : text ∈ f.sources.head?) : ∃ lead, f.message = lead ++ text := by
  cases f with
  | load | invalidUrl | transport | json =>
    obtain rfl := Option.some.inj h
    exact ⟨_, rfl⟩
  | _ => cases h

/-- The backend broke the agreement on what it answers. -/
def isContractViolation : Failure → Bool
  | .missingMapping => true
  | .unknownShape _ => true
  | _ => false

end Failure

end GrammarDesk
