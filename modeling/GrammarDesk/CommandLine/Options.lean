import GrammarDesk.Text.Blank
import GrammarDesk.Text.Decimal

/-!
# Options and words

Arguments are options and words.  An option has a long name, after two dashes, and may have a
letter, after one; several letters may share a dash.  A value follows an equals sign, the letter
itself, or as the next argument, which then must not look like an option.  Two dashes alone end the
options.  The first word may be a command; what follows it is read by the command's own rules.

Main definitions:

- `OptionRule`, `Rules`: the options of a command, its own commands, and the number of its words.
- `Reading`: what has been read.
- `Halt`: why reading ends early.
- `Rules.read`: reads arguments.
-/

namespace GrammarDesk.CommandLine

/-- What a value has to be. -/
inductive ValueKind where
  | text
  /-- The path of a file, which cannot be empty. -/
  | path
  /-- An unsigned number of 64 bits. -/
  | number
deriving DecidableEq

/-- The value is of the kind. -/
def ValueKind.accepts : ValueKind → String → Bool
  | .text, _ => true
  | .path, value => !value.isEmpty
  | .number, value => (Text.readUnsigned? value).isSome

/-- An option: its name, its letter if it has one, and the kind of its value unless it is a mere
switch. -/
structure OptionRule where
  name : String
  letter : Option Char
  value : Option ValueKind

/-- The rules of a command. -/
structure Rules where
  options : List OptionRule
  /-- The kinds of the words, in order. -/
  words : List ValueKind
  /-- The commands that may follow. -/
  commands : List String
  /-- The version can be asked for. -/
  hasVersion : Bool

/-- Why reading ends early. -/
inductive Halt where
  /-- The arguments are against the rules. -/
  | misuse
  /-- The user asks for the version. -/
  | version
  /-- The user asks for help. -/
  | help
deriving DecidableEq

/-- What has been read: the options with their values, the words, and the command with its
arguments. -/
structure Reading where
  given : List (String × String)
  words : List String
  command : Option (String × List String)

namespace Reading

/-- Nothing has been read. -/
def blank : Reading := ⟨[], [], none⟩

/-- The value of an option. -/
def value? (r : Reading) (name : String) : Option String := r.given.lookup name

/-- The option is given. -/
def has (r : Reading) (name : String) : Bool := (r.value? name).isSome

/-- Another option; none is given twice. -/
def give (r : Reading) (o : OptionRule) (value : String) : Except Halt Reading :=
  if r.has o.name then .error .misuse
  else if (o.value.getD .text).accepts value then
    .ok { r with given := r.given ++ [(o.name, value)] }
  else .error .misuse

/-- Another word, of the kind that is due. -/
def say (r : Reading) (rules : Rules) (word : String) : Except Halt Reading :=
  match rules.words[r.words.length]? with
  | some kind =>
    if kind.accepts word then .ok { r with words := r.words ++ [word] } else .error .misuse
  | none => .error .misuse

end Reading

/-! ## Single arguments -/

/-- The name of the option that asks for help. -/
def helpName : String := "help"

/-- The name of the option that asks for the version. -/
def versionName : String := "version"

/-- An argument by its form. -/
inductive Form where
  | dashes
  | long (name : String) (value : Option String)
  | letters (cs : List Char)
  | word

/-- What precedes the first equals sign, and what follows it. -/
def splitValue (cs : List Char) : String × Option String :=
  let name := cs.takeWhile (· ≠ '=')
  match cs.drop name.length with
  | [] => (String.ofList name, none)
  | _ :: value => (String.ofList name, some (String.ofList value))

/-- The form of an argument; a dash alone is a word. -/
def formOf (arg : String) : Form :=
  match arg.toList with
  | ['-', '-'] => .dashes
  | '-' :: '-' :: cs => let (name, value) := splitValue cs; .long name value
  | '-' :: c :: cs => .letters (c :: cs)
  | _ => .word

namespace Rules

/-- The option of a name. -/
def named? (rules : Rules) (name : String) : Option OptionRule :=
  rules.options.find? (·.name = name)

/-- The option of a letter. -/
def lettered? (rules : Rules) (c : Char) : Option OptionRule :=
  rules.options.find? (·.letter = some c)

/-- What a name without an option asks for. -/
def unknownName (rules : Rules) (name : String) (value : Option String) : Halt :=
  if value.isSome then .misuse
  else if name = helpName then .help
  else if rules.hasVersion && name = versionName then .version
  else .misuse

/-- What a letter without an option asks for. -/
def unknownLetter (rules : Rules) (c : Char) : Halt :=
  if c = 'h' then .help
  else if rules.hasVersion && c = 'V' then .version
  else .misuse

/-- Reads a long option; a value that is still due is left to the next argument. -/
def readLong (rules : Rules) (r : Reading) (name : String) (value : Option String) :
    Except Halt (Reading × Option OptionRule) :=
  match rules.named? name with
  | none => .error (rules.unknownName name value)
  | some o =>
    match o.value, value with
    | none, none => (r.give o "").map (·, none)
    | none, some _ => .error .misuse
    | some _, some v => (r.give o v).map (·, none)
    | some _, none => .ok (r, some o)

/-- The value that is written after a letter. -/
def attached : List Char → Option String
  | [] => none
  | '=' :: cs => some (String.ofList cs)
  | cs => some (String.ofList cs)

/-- Reads the letters after a dash. -/
def readLetters (rules : Rules) (r : Reading) : List Char →
    Except Halt (Reading × Option OptionRule)
  | [] => .ok (r, none)
  | c :: cs =>
    match rules.lettered? c with
    | none => .error (rules.unknownLetter c)
    | some o =>
      if o.value.isSome then
        match attached cs with
        | some v => (r.give o v).map (·, none)
        | none => .ok (r, some o)
      else
        match r.give o "" with
        | .ok r => readLetters rules r cs
        | .error h => .error h

/-- Reads an option of one of the two forms. -/
def readOption (rules : Rules) (r : Reading) : Form → Except Halt (Reading × Option OptionRule)
  | .long name value => rules.readLong r name value
  | .letters cs => rules.readLetters r cs
  | _ => .ok (r, none)

/-! ## All arguments -/

/-- Reads arguments of which an option may still wait for its value. -/
def readFrom (rules : Rules) (waiting : Option OptionRule) (r : Reading) :
    List String → Except Halt Reading
  | [] => if waiting.isSome then .error .misuse else .ok r
  | arg :: rest =>
    match waiting, formOf arg with
    | some o, .word => do readFrom rules none (← r.give o arg) rest
    | some _, _ => .error .misuse
    | none, .dashes => rest.foldlM (fun r word => r.say rules word) r
    | none, .word =>
      if rules.commands.contains arg then .ok { r with command := some (arg, rest) }
      else do readFrom rules none (← r.say rules arg) rest
    | none, form => do
      let (r, waiting) ← rules.readOption r form
      readFrom rules waiting r rest

/-- Reads arguments. -/
def read (rules : Rules) (args : List String) : Except Halt Reading :=
  rules.readFrom none .blank args

end Rules

end GrammarDesk.CommandLine
