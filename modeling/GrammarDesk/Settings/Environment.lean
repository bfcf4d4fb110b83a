import GrammarDesk.Settings.Relay
import GrammarDesk.Text.Decimal

/-!
# Settings

How long a request may take, how grammars are relayed, and how long the inspector waits for input
to rest.  Each setting has a default and a variable of the environment that overrides it; a number
that cannot be read leaves the default.

Main definitions:

- `Environment`: the variables that are set.
- `Settings`, `Settings.ofEnvironment`: how grammars are reached.
- `InspectorSettings`, `InspectorSettings.ofEnvironment`: how the inspector works.
-/

namespace GrammarDesk

/-- A time span in milliseconds. -/
abbrev Milliseconds := UInt64

/-- The value of each variable that is set. -/
abbrev Environment := String → Option String

/-- A variable that holds an unsigned number, with blanks around it or without. -/
def Environment.unsigned? (env : Environment) (key : String) : Option UInt64 :=
  (env key).bind fun s => Text.readUnsigned? (Text.trim s)

/-- A time span as seconds, milliseconds, or as nothing at all. -/
def describeSpan (span : Milliseconds) : String :=
  let ms := span.toNat
  let digits := fun n : Nat => Nat.toDigits 10 n
  if ms = 0 then "0ns"
  else if ms < 1000 then String.ofList (digits ms) ++ "ms"
  else
    let places := (digits (1000 + ms % 1000)).drop 1
    let shown := Text.dropEndWhile (· == '0') places
    let fraction := if shown.isEmpty then [] else '.' :: shown
    String.ofList (digits (ms / 1000) ++ fraction) ++ "s"

/-! ## Reaching grammars -/

/-- How grammars are reached. -/
structure Settings where
  /-- The longest time that a request may take. -/
  timeout : Milliseconds
  /-- The relay, if grammars are to be relayed. -/
  relay : Option Relay

namespace Settings

/-- Five seconds, and the standard relay. -/
def standard : Settings := ⟨5000, some .standard⟩

/-- The variable that turns the relay off. -/
def relayDisabledVariable : String := "GRAMMAR_RELAY_DISABLED"

/-- The variable with the text that relayed URLs start with. -/
def relayLeadVariable : String := "GRAMMAR_RELAY_PREFIX"

/-- The variable with the hosts that are relayed. -/
def relayHostsVariable : String := "GRAMMAR_RELAY_HOSTS"

/-- The variable with the longest time of a request. -/
def timeoutVariable : String := "GRAMMAR_HTTP_TIMEOUT_MS"

/-- The variables that say how grammars are reached. -/
def variableNames : List String :=
  [relayDisabledVariable, relayLeadVariable, relayHostsVariable, timeoutVariable]

/-- The words that turn the relay off. -/
def disablingWords : List String := ["1", "true", "yes"]

/-- The hosts of a list with commas; blanks around them and empty places are dropped. -/
def hostsOf (s : String) : List String :=
  ((Text.pieces ',' s).map Text.trim).filter (!·.isEmpty)

/-- The relay that the environment asks for. -/
def relayOf (env : Environment) : Option Relay :=
  if (env relayDisabledVariable).any (disablingWords.contains ·) then none
  else some {
    lead := (env relayLeadVariable).getD Relay.standard.lead
    hosts := ((env relayHostsVariable).map hostsOf).getD Relay.standard.hosts }

/-- The settings that the environment asks for. -/
def ofEnvironment (env : Environment) : Settings where
  timeout := (env.unsigned? timeoutVariable).getD standard.timeout
  relay := relayOf env

/-- The same settings without a relay. -/
def withoutRelay (s : Settings) : Settings := { s with relay := none }

/-- The URL by way of the relay, if there is one. -/
def relayed (s : Settings) (url : String) : String :=
  match s.relay with
  | some relay => relay.apply url
  | none => url

/-- The settings by their parts. -/
def describe (s : Settings) : String :=
  Text.describeRecord "GrammarConfig" [
    ("http_timeout", describeSpan s.timeout),
    ("relay", Text.describeOption (s.relay.map Relay.describe))]

end Settings

/-! ## The inspector -/

/-- How the inspector works. -/
structure InspectorSettings where
  /-- The time for which input has to rest before a derived value is computed anew. -/
  debounce : Milliseconds
  /-- The number of notifications that are kept for a slow listener. -/
  capacity : Nat

namespace InspectorSettings

/-- Three tenths of a second, and sixteen notifications. -/
def standard : InspectorSettings := ⟨300, 16⟩

/-- The variable with the time for which input has to rest. -/
def debounceVariable : String := "INSPECTOR_DEBOUNCE_MS"

/-- The settings that the environment asks for. -/
def ofEnvironment (env : Environment) : InspectorSettings :=
  { standard with debounce := (env.unsigned? debounceVariable).getD standard.debounce }

end InspectorSettings

end GrammarDesk
