import DependencyLinks.Text.Utf8
import DependencyLinks.Url.Ipv4
import DependencyLinks.Url.Ipv6

/-! The host of a URL. -/

namespace DependencyLinks.Url

inductive Host where
  | name (text : String)
  | ipv4 (address : Nat)
  | ipv6 (pieces : List Nat)
deriving DecidableEq, Repr

namespace Host

def text : Host → List Char
  | name text => text.toList
  | ipv4 address => Ipv4.text address
  | ipv6 pieces => '[' :: Ipv6.text pieces ++ [']']

/-- The characters that no host may hold. -/
def forbidden : List Char :=
  ['\x00', '\t', '\n', '\r', ' ', '#', '/', ':', '<', '>', '?', '@', '[', '\\', ']', '^', '|']

/-- A domain name keeps to ASCII and has no control and no percent sign either. -/
def forbiddenInDomain (c : Char) : Bool :=
  control c || c == '%' || forbidden.contains c

def bracketed (cs : List Char) : Except Fault Host :=
  if cs.getLast? = some ']' then
    (Ipv6.read (cs.drop 1).dropLast).map Host.ipv6
  else .error .ipv6Address

/-- The host of a web address: its escapes are read, its letters are lower case. -/
def readDomain (cs : List Char) : Except Fault Host :=
  if cs.head? = some '[' then bracketed cs
  else
    let domain := (Utf8.lossy (unescape cs)).map Char.toLower
    if domain.any forbiddenInDomain then .error .domainName
    else if domain.isEmpty then .error .emptyHost
    else if Ipv4.expected domain then (Ipv4.read domain).map Host.ipv4
    else .ok (.name (String.ofList domain))

/-- The host of any other address is kept as it is, but for escapes of what is not ASCII. -/
def readName (cs : List Char) : Except Fault Host :=
  if cs.head? = some '[' then bracketed cs
  else if cs.any forbidden.contains then .error .domainCharacter
  else .ok (.name (String.ofList (escape [] cs)))

end Host

end DependencyLinks.Url
