/-!
What can be wrong with a URI.
-/

set_option autoImplicit false

namespace SmaliNavigator

/-- Why a text is no URI that says its scheme. -/
inductive UriFault where
  | noScheme
  | emptyHost
  | badDomain
  | badHostCharacter
  | badIpv4
  | badIpv6
  | badPort
  deriving DecidableEq, Repr

def UriFault.message : UriFault → String
  | noScheme => "relative URL without a base"
  | emptyHost => "empty host"
  | badDomain => "invalid international domain name"
  | badHostCharacter => "invalid domain character"
  | badIpv4 => "invalid IPv4 address"
  | badIpv6 => "invalid IPv6 address"
  | badPort => "invalid port number"

end SmaliNavigator
