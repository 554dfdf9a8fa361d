import BracketDecoration.Uri.Address
import BracketDecoration.Uri.Basic
import BracketDecoration.Uri.Name.Label
import BracketDecoration.Uri.Percent

namespace BracketDecoration.Uri

def isForbiddenInDomain (char : Char) : Bool :=
  char.toNat ≤ 0x20 || char.toNat = 0x7F ||
    char ∈ ['#', '%', '/', ':', '<', '>', '?', '@', '[', '\\', ']', '^', '|']

def isForbiddenInHost (char : Char) : Bool :=
  char ∈ ['\u0000', '\t', '\n', '\r', ' ', '#', '/', ':', '<', '>', '?', '@', '[', '\\', ']', '^', '|']

def asciiDomain? (name : List Char) : Option (List Char) := do
  let domain ← asciiName? name
  if domain.any isForbiddenInDomain then none else some domain

def bracketedHost (text : List Char) : Except Error (List Char) :=
  match text with
  | '[' :: inner =>
    if inner.getLast? = some ']' then
      match Ipv6.parse? inner.dropLast with
      | some words => .ok ('[' :: Ipv6.text words ++ [']'])
      | none => .error .badIpv6
    else .error .badIpv6
  | _ => .error .badIpv6

/-- The host of a scheme of the web. A name whose last label is a number has to be an address. -/
def domainHost (text : List Char) : Except Error (List Char) :=
  if text.head? = some '[' then bracketedHost text
  else
    match (Text.ofBytes? (decode (Text.bytes text))).bind fun name => asciiDomain? name.toList with
    | none => .error .badInternationalName
    | some domain =>
      if domain.isEmpty then .error .emptyHost
      else if Ipv4.isNumeric domain then
        match Ipv4.parse? domain with
        | some bytes => .ok (Ipv4.text bytes)
        | none => .error .badIpv4
      else .ok domain

def opaqueHost (text : List Char) : Except Error (List Char) :=
  if text.head? = some '[' then bracketedHost text
  else if text.any isForbiddenInHost then .error .badDomainCharacter
  else .ok (encode .opaquePath text)

end BracketDecoration.Uri
