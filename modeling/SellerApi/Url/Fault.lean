/-! # Faults of a URL -/

namespace SellerApi.Url

/-- Why a text is no URL. -/
inductive Fault where
  | emptyHost
  | badDomain
  | badPort
  | badAddress4
  | badAddress6
  | badHostChar
  | noScheme
  deriving DecidableEq, Repr

def Fault.message : Fault → String
  | .emptyHost => "empty host"
  | .badDomain => "invalid international domain name"
  | .badPort => "invalid port number"
  | .badAddress4 => "invalid IPv4 address"
  | .badAddress6 => "invalid IPv6 address"
  | .badHostChar => "invalid domain character"
  | .noScheme => "relative URL without a base"

end SellerApi.Url
