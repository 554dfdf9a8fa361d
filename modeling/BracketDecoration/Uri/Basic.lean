namespace BracketDecoration

/-- What stands behind two slashes. User information is written with its sign at the end. -/
structure Authority where
  userInfo : String
  host : String
  port : Option Nat
deriving DecidableEq, Repr

structure Uri where
  scheme : String
  authority : Option Authority
  path : String
  query : Option String
  fragment : Option String
deriving DecidableEq, Repr

namespace Authority

def empty : Authority := ⟨"", "", none⟩

def text (authority : Authority) : String :=
  authority.userInfo ++ authority.host ++
    match authority.port with
    | some port => ":" ++ toString port
    | none => ""

end Authority

namespace Uri

inductive Error where
  | relative
  | emptyHost
  | badPort
  | badIpv4
  | badIpv6
  | badDomainCharacter
  | badInternationalName
deriving DecidableEq, Repr

namespace Error

def message : Error → String
  | .relative => "relative URL without a base"
  | .emptyHost => "empty host"
  | .badPort => "invalid port number"
  | .badIpv4 => "invalid IPv4 address"
  | .badIpv6 => "invalid IPv6 address"
  | .badDomainCharacter => "invalid domain character"
  | .badInternationalName => "invalid international domain name"

end Error

def marked (mark : String) : Option String → String
  | some text => mark ++ text
  | none => ""

/-- What stands between the scheme and the path. A path of two leading slashes is kept apart from an
authority by a slash and a dot. -/
def beforePath (uri : Uri) : String :=
  match uri.authority with
  | some authority => "//" ++ authority.text
  | none => if ['/', '/'].isPrefixOf uri.path.toList then "/." else ""

def text (uri : Uri) : String :=
  uri.scheme ++ ":" ++ uri.beforePath ++ uri.path ++ marked "?" uri.query ++ marked "#" uri.fragment

end Uri

end BracketDecoration
