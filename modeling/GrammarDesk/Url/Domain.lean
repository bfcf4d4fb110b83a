import GrammarDesk.Url.Punycode
import GrammarDesk.Url.Domain.Form
import GrammarDesk.Url.Domain.Direction
import GrammarDesk.Url.Domain.Joiner
import GrammarDesk.Text.Blank
import GrammarDesk.Text.Composition

/-!
# Domain names

A domain name is taken in any case and script.  Each character is replaced by what it stands for,
and the text is composed; then each label between full stops is read.  A label in Punycode has to
decode to characters that stand for themselves, in composed form, some of them beyond ASCII.
A label beyond ASCII may not start with a mark, holds joiners only where they matter, and is not
too long; and if any label runs to the left, no label mixes directions.  In the usual form of a
name, labels beyond ASCII are in Punycode.

Main definitions:

- `isForbidden`: the ASCII characters that no domain name holds.
- `readLabel?`, `writeLabel`: a label as it reads, and its usual form.
- `domain?`: the usual form of a domain name.
-/

namespace GrammarDesk.Url

open Text

/-! ## Characters -/

/-- ASCII characters that no domain name holds. -/
def isForbidden (c : Char) : Bool :=
  c.toNat ≤ 0x20 || c.toNat = 0x7F
    || ['%', '#', '/', ':', '<', '>', '?', '@', '[', '\\', ']', '^', '|'].contains c

/-- A character beyond ASCII. -/
def isBeyond (c : Char) : Bool := 128 ≤ c.toNat

/-! ## Labels -/

/-- What announces a label in Punycode. -/
def punycodeMark : List Char := "xn--".toList

/-- How long a label in Punycode may be behind its mark. -/
def punycodeLimit : Nat := 2000

/-- How many characters a label beyond ASCII may have. -/
def labelLimit : Nat := 1000

/-- A label beyond ASCII that starts with no mark, holds joiners only where they matter, and is not
too long. -/
def isSound (label : List Char) : Bool :=
  !label.head?.any isMark && joinersMatter label && label.length ≤ labelLimit

/-- A decoded label that may be written in Punycode: it has to be. -/
def isWorthEncoding (label : List Char) : Bool :=
  label.any isBeyond && label.all isPlain && composed label == label

/-- A label as it reads: in characters beyond ASCII if it has any. -/
def readLabel? (label : List Char) : Option (List Char) := do
  if startsWith punycodeMark label then
    let form := label.drop punycodeMark.length
    if punycodeLimit < form.length then none
    else
      let decoded ← Punycode.decode? form
      if isWorthEncoding decoded && isSound decoded then some decoded else none
  else if !label.any isBeyond || isSound label then some label
  else none

/-- The usual form of a label. -/
def writeLabel (label : List Char) : List Char :=
  if label.any isBeyond then punycodeMark ++ Punycode.encode label else label

/-! ## Names -/

/-- The composed text that a name stands for, unless it holds something that no name does. -/
def plainName? (name : List Char) : Option (List Char) := do
  let text := composed (← name.mapM formOf?).flatten
  if text.any isForbidden then none else some text

/-- The usual form of a domain name. -/
def domain? (name : String) : Option String := do
  let labels ← (splitOn '.' (← plainName? name.toList)).mapM readLabel?
  if labels.any runsLeft && !labels.all obeysDirection then none
  else some (".".intercalate (labels.map fun label => String.ofList (writeLabel label)))

end GrammarDesk.Url
