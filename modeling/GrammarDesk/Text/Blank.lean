/-!
# Blank characters and trimming

White space follows the Unicode property `White_Space`, which holds twenty-five characters.
The control characters U+001C to U+001F, the zero width space and the byte order mark are not
among them.

Main definitions:

- `isBlank`: membership in the property.
- `trim`: a text without blanks at both ends.
- `dropTrailing`: a text without a run of one character at its end.
- `occursIn`, `pieces`: a text inside another, and the pieces between separators.
-/

namespace GrammarDesk.Text

/-! ## White space -/

/-- A character with the Unicode property `White_Space`. -/
def isBlank (c : Char) : Bool :=
  let n := c.toNat
  (0x09 ≤ n && n ≤ 0x0D) || n == 0x20 || n == 0x85 || n == 0xA0 || n == 0x1680
    || (0x2000 ≤ n && n ≤ 0x200A) || n == 0x2028 || n == 0x2029 || n == 0x202F
    || n == 0x205F || n == 0x3000

/-- The list without the longest run at its end that satisfies the test. -/
def dropEndWhile (test : Char → Bool) (cs : List Char) : List Char :=
  (cs.reverse.dropWhile test).reverse

/-- The text without blanks at both ends. -/
def trim (s : String) : String :=
  String.ofList (dropEndWhile isBlank (s.toList.dropWhile isBlank))

/-- A text of blanks only, the empty text included. -/
def isBlankText (s : String) : Bool :=
  s.toList.all isBlank

/-- The text without the copies of `c` at its end. -/
def dropTrailing (c : Char) (s : String) : String :=
  String.ofList (dropEndWhile (· == c) s.toList)

/-- What precedes `ending`, when the text ends so. -/
def beforeEnding? (ending s : String) : Option String :=
  let keep := s.length - ending.length
  if ending.length ≤ s.length && s.toList.drop keep == ending.toList then
    some (String.ofList (s.toList.take keep))
  else
    none

/-! ## Searching -/

/-- The first list starts the second. -/
def startsWith : List Char → List Char → Bool
  | [], _ => true
  | _ :: _, [] => false
  | p :: ps, c :: cs => p == c && startsWith ps cs

/-- The first list stands somewhere in the second. -/
def occursIn (part : List Char) : List Char → Bool
  | [] => startsWith part []
  | c :: cs => startsWith part (c :: cs) || occursIn part cs

/-- The pieces of a list between the copies of a separator; there is one more than separators. -/
def splitOn (separator : Char) : List Char → List (List Char)
  | [] => [[]]
  | c :: cs =>
    if c = separator then [] :: splitOn separator cs
    else match splitOn separator cs with
      | [] => [[c]]
      | piece :: pieces => (c :: piece) :: pieces

/-- The pieces of a text between the copies of a separator. -/
def pieces (separator : Char) (s : String) : List String :=
  (splitOn separator s.toList).map String.ofList

end GrammarDesk.Text
