import EntityService.Text.Percent
import EntityService.Url.Domain.Name
import EntityService.Url.EncodeSet
import EntityService.Url.Error
import EntityService.Url.Ipv4
import EntityService.Url.Ipv6

/-! Hosts. Special schemes have domains, whose names are written in ASCII, and addresses; other
schemes have addresses in brackets and any other text. -/
namespace EntityService.Url

open Text

/-- The host ends at a colon, but not between brackets. -/
def takeHost (inBrackets : Bool) : List Char → List Char × List Char
  | [] => ([], [])
  | c :: cs =>
    if c == ':' && !inBrackets then ([], c :: cs)
    else
      let (host, rest) := takeHost (c == '[' || (inBrackets && c != ']')) cs
      (c :: host, rest)

/-- An address in brackets, if the host begins like one. -/
def bracketed? : List Char → Option (Except UrlError String)
  | '[' :: cs =>
    match ([']'].isSuffixOf? cs).bind Ipv6.address? with
    | some address => some (.ok ("[" ++ Ipv6.text address ++ "]"))
    | none => some (.error .invalidIpv6)
  | _ => none

def isForbiddenInHost (c : Char) : Bool :=
  ['\x00', '\t', '\n', '\r'].contains c || Domain.delimiters.contains c

/-- A domain may be percent-encoded. One that ends in a number is an address. -/
def domain (cs : List Char) : Except UrlError String :=
  match Domain.asciiName? (Percent.decode cs) with
  | none => .error .invalidDomain
  | some [] => .error .emptyHost
  | some name =>
    if Ipv4.endsInNumber name then
      match Ipv4.address? name with
      | some address => .ok (Ipv4.text address)
      | none => .error .invalidIpv4
    else .ok (String.ofList name)

def specialHost (cs : List Char) : Except UrlError String :=
  if cs.isEmpty then .error .emptyHost else (bracketed? cs).getD (domain cs)

def plainHost (cs : List Char) : Except UrlError String :=
  (bracketed? cs).getD <|
    if cs.any isForbiddenInHost then .error .invalidDomainCharacter
    else .ok (String.ofList (Percent.encode EncodeSet.controls cs))

end EntityService.Url
