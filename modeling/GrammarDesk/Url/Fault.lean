/-!
# Why a URL cannot be read

Main definitions:

- `Url.Fault`: the ways in which reading a URL fails.
- `Url.Fault.message`: their wording.
-/

namespace GrammarDesk.Url

/-- The ways in which reading a URL fails. -/
inductive Fault where
  | emptyHost
  | badDomain
  | badHostCharacter
  | badPort
  | badIpv4
  | badIpv6
  | relative
deriving DecidableEq

/-- The wording of a failure to read a URL. -/
def Fault.message : Fault → String
  | .emptyHost => "empty host"
  | .badDomain => "invalid international domain name"
  | .badHostCharacter => "invalid domain character"
  | .badPort => "invalid port number"
  | .badIpv4 => "invalid IPv4 address"
  | .badIpv6 => "invalid IPv6 address"
  | .relative => "relative URL without a base"

end GrammarDesk.Url
