import DirectoryClient.Url.Address
import DirectoryClient.Url.Domain
import DirectoryClient.Url.Percent

/-!
# Hosts

A host in brackets is an address of version 6. For the schemes of the web any
other host is a domain name, which is brought into its ASCII form, or, if it
ends in a number, an address of version 4. Other schemes have their own ideas
of hosts, so theirs are kept as they are and only percent-encoded.
-/

namespace DirectoryClient.Url

inductive Host
  | name (text : String)
  | ipv4 (address : Nat)
  | ipv6 (pieces : List Nat)
  deriving DecidableEq

namespace Host

def render : Host → String
  | name text => text
  | ipv4 address => Ipv4.render address
  | ipv6 pieces => "[" ++ Ipv6.render pieces ++ "]"

/-- Reads an address of version 6 with its brackets. -/
def parseBracketed (cs : List Char) : Except Fault Host :=
  if cs.getLast? = some ']' then
    match Ipv6.parse? (cs.drop 1).dropLast with
    | some pieces => .ok (.ipv6 pieces)
    | none => .error .badIpv6
  else .error .badIpv6

/-- The characters that no host of any scheme may have. -/
def isForbidden (c : Char) : Bool :=
  [Char.ofNat 0, '\t', '\n', '\r', ' ', '#', '/', ':', '<', '>', '?', '@', '[', '\\', ']', '^',
    '|'].contains c

/-- Reads the host of a scheme with its own ideas of hosts. -/
def parseFree (cs : List Char) : Except Fault Host :=
  if cs.head? = some '[' then parseBracketed cs
  else if cs.any isForbidden then .error .badHostCharacter
  else .ok (.name (String.ofList (percentEncode controlSet cs)))

/-- Reads the host of a scheme of the web. -/
def parseWeb (cs : List Char) : Except Fault Host :=
  if cs.head? = some '[' then parseBracketed cs
  else do
    let domain ← Domain.toAscii (percentDecode cs)
    if domain.isEmpty then throw .emptyHost
    let parts := Text.split '.' domain
    if Ipv4.endsInNumber parts then
      match Ipv4.ofParts? parts with
      | some address => return .ipv4 address
      | none => throw .badIpv4
    else return .name (String.ofList domain)

end Host

end DirectoryClient.Url
