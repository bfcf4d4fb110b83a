/-!
# Texts measured in UTF-8 bytes

A text is a list of characters; offsets and limits on it are counted in the bytes of its UTF-8
form.  A cut at a byte limit falls back to the last character boundary at or below the limit.

Main definitions:

- `isBoundary`: a byte offset at which a character starts or the text ends.
- `lastBoundary?`: the greatest boundary not above a limit.
- `takeBytes`: the characters that lie wholly below a byte offset.
- `bytesOf`: the UTF-8 bytes of a text.
-/

namespace GrammarDesk.Text

/-- The number of bytes that a list of characters takes. -/
def byteSize : List Char → Nat
  | [] => 0
  | c :: cs => c.utf8Size + byteSize cs

/-- A byte offset at which a character of the text starts, or at which the text ends. -/
def isBoundary : List Char → Nat → Bool
  | _, 0 => true
  | [], _ + 1 => false
  | c :: cs, n => c.utf8Size ≤ n && isBoundary cs (n - c.utf8Size)

/-- The greatest character boundary not above the limit, searched from the limit downwards. -/
def lastBoundary? (cs : List Char) (limit : Nat) : Option Nat :=
  (List.range (limit + 1)).reverse.find? (isBoundary cs)

/-- The longest run of whole characters at the start that takes at most `n` bytes. -/
def takeBytes : Nat → List Char → List Char
  | _, [] => []
  | n, c :: cs => if c.utf8Size ≤ n then c :: takeBytes (n - c.utf8Size) cs else []

/-- The UTF-8 bytes of a text. -/
def bytesOf (s : String) : List UInt8 :=
  s.toUTF8.toList

end GrammarDesk.Text
