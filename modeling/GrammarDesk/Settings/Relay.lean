import GrammarDesk.Text.Quoted
import GrammarDesk.Text.Blank

/-!
# Relays

Grammars on some hosts can only be reached through a relay.  A relay rule names those hosts and the
text that goes before their URLs.  A URL that has the text before it already is left alone, so
applying the rule twice is the same as applying it once.

Main definitions:

- `Relay`: a rule.
- `Relay.apply`: a URL by way of the relay.
-/

namespace GrammarDesk

/-- A rule to put a text before the URLs that mention certain hosts. -/
structure Relay where
  lead : String
  hosts : List String
deriving DecidableEq

namespace Relay

/-- The public relay, for the host of most grammars. -/
def standard : Relay := ⟨"https://cors-anywhere.herokuapp.com/", ["github.com"]⟩

/-- The URL mentions one of the hosts of the rule. -/
def concerns (r : Relay) (url : String) : Bool :=
  r.hosts.any fun host => !host.isEmpty && Text.occursIn host.toList url.toList

/-- The URL by way of the relay, if it needs one and does not name it yet. -/
def apply (r : Relay) (url : String) : String :=
  if Text.startsWith r.lead.toList url.toList then url
  else if r.concerns url then r.lead ++ url
  else url

/-- The rule by its parts. -/
def describe (r : Relay) : String :=
  Text.describeRecord "RelayRule" [
    ("prefix", Text.quote r.lead), ("hosts", Text.describeList (r.hosts.map Text.quote))]

end Relay

end GrammarDesk
