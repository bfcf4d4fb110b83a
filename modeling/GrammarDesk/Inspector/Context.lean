import GrammarDesk.Json.Reader.Document
import GrammarDesk.Text.Blank

/-!
# The evaluation context

The context of an evaluation is typed as JSON text.  Blank text is the empty context, and only an
object is a context.

Main definitions:

- `parseContext`: the context that a text writes, or what is wrong with it.
-/

namespace GrammarDesk.Inspector

open Json

/-- What is said of a JSON value that is no object. -/
def expectedObject : String := "expected Object literal"

/-- The context that a text writes, or what is wrong with the text. -/
def parseContext (text : String) : Except String Value :=
  if Text.isBlankText text then .ok (.object [])
  else match parse text with
    | .ok v => if v.isObject then .ok v else .error expectedObject
    | .error fault => .error fault.message

end GrammarDesk.Inspector
