/-! Percent escapes, and the characters that each part of a URL writes as escapes. -/

namespace DependencyLinks.Url

def upperHexDigit (n : Nat) : Char :=
  (Nat.digitChar n).toUpper

def escapeByte (b : UInt8) : List Char :=
  ['%', upperHexDigit (b.toNat / 16), upperHexDigit (b.toNat % 16)]

/-- Every part escapes ASCII controls and all that is not ASCII. -/
def control (c : Char) : Bool :=
  c.toNat < 0x20 || 0x7E < c.toNat

/-- Writes the bytes of the controls and of the given characters as escapes. -/
def escape (reserved : List Char) (cs : List Char) : List Char :=
  cs.flatMap fun c =>
    if control c || reserved.contains c then (String.utf8EncodeChar c).flatMap escapeByte else [c]

def fragmentReserved : List Char := [' ', '"', '<', '>', '\x60']

def pathReserved : List Char := fragmentReserved ++ ['#', '?', '\x7b', '\x7d']

def userReserved : List Char := pathReserved ++ ['/', ':', ';', '=', '@', '[', '\\', ']', '^', '|']

def queryReserved : List Char := [' ', '"', '#', '<', '>']

/-- Queries of the web schemes escape the single quote as well. -/
def webQueryReserved : List Char := queryReserved ++ ['\'']

def hexValue? (c : Char) : Option Nat :=
  if c.isDigit then some (c.toNat - '0'.toNat)
  else if 'a' ≤ c && c ≤ 'f' then some (c.toNat - 'a'.toNat + 10)
  else if 'A' ≤ c && c ≤ 'F' then some (c.toNat - 'A'.toNat + 10)
  else none

/-- Reads escapes back into bytes. A percent sign without two hexadecimal digits stands for
itself. -/
def unescape : List Char → List UInt8
  | [] => []
  | '%' :: high :: low :: rest =>
    match hexValue? high, hexValue? low with
    | some h, some l => UInt8.ofNat (16 * h + l) :: unescape rest
    | _, _ => 0x25 :: unescape (high :: low :: rest)
  | c :: rest => String.utf8EncodeChar c ++ unescape rest

end DependencyLinks.Url
