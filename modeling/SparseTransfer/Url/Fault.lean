/- Why a text is no URL. -/
namespace SparseTransfer

inductive UrlFault where
  | emptyHost
  | badHostName
  | badHostCharacter
  | badPort
  | badIpv4
  | badIpv6
  | noScheme
  deriving Repr, DecidableEq

def UrlFault.message : UrlFault → String
  | .emptyHost => "empty host"
  | .badHostName => "invalid international domain name"
  | .badHostCharacter => "invalid domain character"
  | .badPort => "invalid port number"
  | .badIpv4 => "invalid IPv4 address"
  | .badIpv6 => "invalid IPv6 address"
  | .noScheme => "relative URL without a base"

end SparseTransfer
