import GrammarDesk.Settings.Environment
import GrammarDesk.Text.Alphanumeric

/-!
# Files of variables

A file may hold variables that the environment does not set.  Each line names a variable and its
value, `NAME=value`, with `export` before it or without.  A value may stand between quotes: single
quotes take everything as it is, double quotes know escapes and references to other variables, and
a quoted value may go on over several lines.  A number sign at the start of a line or after a blank
begins a comment.  Reading ends at the first line that is wrong, and what was read before it holds.

Main definitions:

- `logicalLines`: the lines of a text, where a line may go on inside quotes.
- `readValue`: the value that a line writes.
- `Environment.withFile`: the environment with the variables of a file.
- `mentionedNames`: the variables that a file may be about.
-/

namespace GrammarDesk

/-! ## Lines -/

namespace VariableFile

/-- Where in a line a character stands. -/
inductive Place where
  | plain
  /-- After a blank, where a comment may begin. -/
  | gap
  | escaped
  | double
  | doubleEscaped
  | single
  | singleEscaped
  | comment
deriving DecidableEq

/-- The place after a character that is neither quoted nor escaped. -/
def Place.afterPlain (c : Char) : Place :=
  if c = '\\' then .escaped
  else if c = '"' then .double
  else if c = '\x27' then .single
  else .plain

/-- The place after a character. -/
def Place.next (p : Place) (c : Char) : Place :=
  match p with
  | .gap => if c = '#' then .comment else .afterPlain c
  | .plain => if Text.isBlank c && c ≠ '\n' && c ≠ '\r' then .gap else .afterPlain c
  | .escaped => .plain
  | .double => if c = '\\' then .doubleEscaped else if c = '"' then .plain else .double
  | .doubleEscaped => .double
  | .single => if c = '\\' then .singleEscaped else if c = '\x27' then .plain else .single
  | .singleEscaped => .single
  | .comment => if c = '\n' then .plain else .comment

/-- The lines of a text after a place and the characters, latest first, of a line that has begun.
A last line that does not end is none. -/
def linesFrom (p : Place) (line : List Char) : List Char → List (Option (List Char))
  | [] =>
    match p with
    | .plain | .comment => if line.isEmpty then [] else [some line.reverse]
    | _ => [none]
  | c :: cs =>
    let isOpening := c = '#' && p ≠ .comment && line.all Text.isBlank
    match if isOpening then .comment else p.next c with
    | .comment => linesFrom .comment line cs
    | .plain => if c = '\n' then some line.reverse :: linesFrom .plain [] cs
      else linesFrom .plain (c :: line) cs
    | q => linesFrom q (c :: line) cs

/-- The lines of a text, without the mark that may stand before it. -/
def logicalLines (text : String) : List (Option (List Char)) :=
  match text.toList with
  | c :: cs => if c.toNat = 0xFEFF then linesFrom .plain [] cs else linesFrom .plain [] (c :: cs)
  | [] => []

/-! ## Values -/

/-- What the next character of a value belongs to. -/
inductive Mode where
  | text
  | single
  | escape
  /-- A reference without braces. -/
  | reference
  /-- A reference between braces. -/
  | braced
  /-- Blanks after the value. -/
  | after
  | comment
deriving DecidableEq

/-- A value that is being read, the latest characters first. -/
structure Reading where
  mode : Mode
  /-- Inside double quotes. -/
  isDouble : Bool
  /-- The name of the variable that is referred to. -/
  name : List Char
  output : List Char

namespace Reading

/-- A value of which nothing has been read. -/
def blank : Reading := ⟨.text, false, [], []⟩

/-- The value with another character. -/
def push (r : Reading) (c : Char) : Reading := { r with mode := .text, output := c :: r.output }

/-- The value with the value of the variable that is referred to. -/
def resolve (env : Environment) (r : Reading) : Reading :=
  let found := (env (String.ofList r.name.reverse)).getD ""
  { r with mode := .text, name := [], output := found.toList.reverse ++ r.output }

/-- A character after a reference without braces. -/
def endReference (env : Environment) (r : Reading) (c : Char) : Reading :=
  if c = '\x7b' && r.name.isEmpty then { r with mode := .braced }
  else if c = '$' then { r.resolve env with mode := .reference }
  else (r.resolve env).push c

/-- A character that is neither escaped nor between single quotes. -/
def plain (r : Reading) (c : Char) : Reading :=
  if c = '$' then { r with mode := .reference }
  else if c = '\\' then { r with mode := .escape }
  else if c = '"' then { r with isDouble := !r.isDouble }
  else if r.isDouble then r.push c
  else if c = '\x27' then { r with mode := .single }
  else if c = ' ' || c = '\t' then { r with mode := .after }
  else r.push c

/-- The character that an escape stands for. -/
def escapeOf? (c : Char) : Option Char :=
  if c = 'n' then some '\n'
  else if c = '\\' || c = '\x27' || c = '"' || c = '$' || c = ' ' then some c
  else none

/-- The value after a character, unless the character is wrong there. -/
def step (env : Environment) (r : Reading) (c : Char) : Option Reading :=
  match r.mode with
  | .comment => some r
  | .after =>
    if c = ' ' || c = '\t' then some r
    else if c = '#' then some { r with mode := .comment }
    else none
  | .escape => (escapeOf? c).map r.push
  | .single =>
    some (if c = '\x27' then { r with mode := .text } else { r.push c with mode := .single })
  | .reference =>
    some (if Text.isAlphanumeric c then { r with name := c :: r.name } else r.endReference env c)
  | .braced => some (if c = '\x7d' then r.resolve env else { r with name := c :: r.name })
  | .text => some (r.plain c)

/-- The finished value, if all quotes and braces are closed. -/
def close (env : Environment) (r : Reading) : Option String :=
  if r.mode = .braced || r.mode = .single || r.isDouble then none
  else some (String.ofList (r.resolve env).output.reverse)

end Reading

/-- The value that the rest of a line writes. -/
def readValue (env : Environment) (cs : List Char) : Option String :=
  (cs.foldlM (Reading.step env) .blank).bind (Reading.close env)

/-! ## Bindings -/

/-- What a line says. -/
inductive Line where
  | skipped
  | binding (name value : String)
  | wrong

/-- A character of the name of a variable. -/
def isKeyChar (c : Char) : Bool := c.isAlphanum || c = '_' || c = '.'

/-- The name at the start of a line and what follows it, without the blanks between. -/
def key? (cs : List Char) : Option (String × List Char) :=
  match cs with
  | c :: _ =>
    if c.isAlpha || c = '_' then
      some (String.ofList (cs.takeWhile isKeyChar),
        (cs.dropWhile isKeyChar).dropWhile Text.isBlank)
    else none
  | [] => none

/-- What follows an equals sign and blanks. -/
def afterEquals? : List Char → Option (List Char)
  | '=' :: cs => some (cs.dropWhile Text.isBlank)
  | _ => none

/-- The word that may stand before a binding. -/
def exportWord : String := "export"

/-- The name of a line and the rest that writes the value. -/
def binding? (cs : List Char) : Option (String × List Char) := do
  let (key, rest) ← key? cs
  match afterEquals? rest with
  | some value => some (key, value)
  | none =>
    if key = exportWord then
      let (key, rest) ← key? rest
      return (key, ← afterEquals? rest)
    else none

/-- The rest of a line writes nothing. -/
def isVoid : List Char → Bool
  | [] => true
  | c :: _ => c = '#'

/-- What a line says. -/
def readLine (env : Environment) (line : List Char) : Line :=
  let cs := (Text.dropEndWhile Text.isBlank line).dropWhile Text.isBlank
  if isVoid cs then .skipped
  else match binding? cs with
    | none => .wrong
    | some (key, rest) =>
      if isVoid rest then .binding key ""
      else match readValue env rest with
        | some value => .binding key value
        | none => .wrong

/-- The environment in which a variable has a value, unless it has one already. -/
def withDefault (env : Environment) (name value : String) : Environment := fun key =>
  if key = name then some ((env key).getD value) else env key

/-- The environment with the variables of lines, up to the first that is wrong. -/
def bindAll (env : Environment) : List (Option (List Char)) → Environment
  | [] => env
  | none :: _ => env
  | some line :: rest =>
    match readLine env line with
    | .skipped => bindAll env rest
    | .binding name value => bindAll (withDefault env name value) rest
    | .wrong => env

/-- The words of a text that may be names of variables. -/
def mentionedNames (text : String) : List String :=
  ((text.toList.splitBy fun a b => isKeyChar a == isKeyChar b).map String.ofList).eraseDups

end VariableFile

/-- The environment with the variables of a file; those that are set already stay. -/
def Environment.withFile (env : Environment) (text : String) : Environment :=
  VariableFile.bindAll env (VariableFile.logicalLines text)

end GrammarDesk
