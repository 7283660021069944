import StreamLinks.Text.Basic
/-!
What can be wrong with an address.
-/
namespace StreamLinks.Url

/-- The reason why a text is no absolute address. -/
inductive ParseError where
  | emptyHost
  | badDomain
  | badPort
  | badIpv4
  | badIpv6
  | badHostCharacter
  | noScheme
  deriving Repr, DecidableEq

def ParseError.message : ParseError → String
  | emptyHost => "empty host"
  | badDomain => "invalid international domain name"
  | badPort => "invalid port number"
  | badIpv4 => "invalid IPv4 address"
  | badIpv6 => "invalid IPv6 address"
  | badHostCharacter => "invalid domain character"
  | noScheme => "relative URL without a base"

end StreamLinks.Url
