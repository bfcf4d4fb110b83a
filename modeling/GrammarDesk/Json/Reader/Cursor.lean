import GrammarDesk.Json.Fault
import GrammarDesk.Text.Bytes

/-!
# A cursor in a JSON text

A reader holds the characters still to be read and the number of bytes already read.  A fault is
noticed at a byte offset: either at the cursor, or one byte further when the character under the
cursor is to blame.  Only the finished reader turns offsets into lines and columns.

Main definitions:

- `Cursor`, `Scan`: the state of a reader, and readers.
- `Scan.peek`, `Scan.advance`, `Scan.skipBlanks`: looking and moving.
- `Scan.failHere`, `Scan.failAtNext`: faults at the cursor and one byte further.
- `Place.ofOffset`: the line and column of a byte offset.
-/

namespace GrammarDesk.Json

/-- The characters still to be read, and the bytes read before them. -/
structure Cursor where
  rest : List Char
  offset : Nat

/-- A fault at a byte offset. -/
structure Flaw where
  cause : Fault.Cause
  offset : Nat

/-- A reader: it moves a cursor or fails. -/
abbrev Scan := StateT Cursor (Except Flaw)

/-- The line of a byte offset, counted from one, and the bytes between its start and the
offset.  `offset` is measured from the first of the characters, which is `passed` bytes from the
start of the text; the current line began at byte `start`. -/
def Place.locate (target : Nat) (line start passed : Nat) : List Char → Place
  | [] => ⟨line, target - start⟩
  | c :: cs =>
    if target ≤ passed then ⟨line, target - start⟩
    else if c = '\n' then Place.locate target (line + 1) (passed + 1) (passed + 1) cs
    else Place.locate target line start (passed + c.utf8Size) cs

/-- The place of a byte offset in a text. -/
def Place.ofOffset (text : String) (offset : Nat) : Place :=
  Place.locate offset 1 0 0 text.toList

namespace Scan

/-- Fails at a given byte offset. -/
def failAt {α : Type} (offset : Nat) (cause : Fault.Cause) : Scan α :=
  fun _ => .error ⟨cause, offset⟩

/-- Fails at the cursor. -/
def failHere {α : Type} (cause : Fault.Cause) : Scan α :=
  fun cursor => .error ⟨cause, cursor.offset⟩

/-- Fails one byte after the cursor, or at the end of the text. -/
def failAtNext {α : Type} (cause : Fault.Cause) : Scan α :=
  fun cursor => .error ⟨cause, if cursor.rest.isEmpty then cursor.offset else cursor.offset + 1⟩

/-- The character under the cursor. -/
def peek : Scan (Option Char) :=
  fun cursor => .ok (cursor.rest.head?, cursor)

/-- Moves past the character under the cursor. -/
def advance : Scan Unit :=
  fun cursor => match cursor.rest with
    | [] => .ok ((), cursor)
    | c :: cs => .ok ((), ⟨cs, cursor.offset + c.utf8Size⟩)

/-- Moves past the longest run of characters that satisfy the test, and returns the run. -/
def takeWhile (test : Char → Bool) : Scan (List Char) :=
  fun cursor =>
    let run := cursor.rest.takeWhile test
    .ok (run, ⟨cursor.rest.dropWhile test, cursor.offset + Text.byteSize run⟩)

/-- The four blanks of a JSON text. -/
def isJsonBlank (c : Char) : Bool :=
  c = ' ' || c = '\t' || c = '\n' || c = '\r'

/-- Moves past blanks, and looks at what follows. -/
def skipBlanks : Scan (Option Char) := do
  let _ ← takeWhile isJsonBlank
  peek

/-- Moves past the given letters, which complete a word. -/
def word : List Char → Scan Unit
  | [] => pure ()
  | expected :: others => do
    match ← peek with
    | none => failHere .endInValue
    | some c =>
      if c = expected then
        advance
        word others
      else
        failAtNext .expectedIdent

/-- Runs a reader on a whole text; a fault is reported with its place. -/
def run {α : Type} (scan : Scan α) (text : String) : Except Fault α :=
  match scan ⟨text.toList, 0⟩ with
  | .ok (result, _) => .ok result
  | .error flaw => .error ⟨flaw.cause, some (Place.ofOffset text flaw.offset)⟩

end Scan

end GrammarDesk.Json
