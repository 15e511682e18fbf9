import DependencyLinks.Text.Cut
import DependencyLinks.Text.Decimal
import DependencyLinks.Url.Escape
import DependencyLinks.Url.Fault

/-! IPv4 addresses: one to four numbers, each decimal, octal or hexadecimal, the last of which
fills the bytes that are left. -/

namespace DependencyLinks.Url.Ipv4

/-- The value of digits in a base, if each of them is one. -/
def digitsIn? (base : Nat) (cs : List Char) : Option Nat :=
  (cs.mapM fun c => (hexValue? c).filter (· < base)).map
    fun digits => digits.foldl (fun value digit => base * value + digit) 0

/-- A leading `0x` marks hexadecimal and a leading zero octal digits; there may be none. -/
def number? : List Char → Option Nat
  | [] => none
  | '0' :: 'x' :: digits | '0' :: 'X' :: digits => digitsIn? 16 digits
  | '0' :: digit :: digits => digitsIn? 8 (digit :: digits)
  | digits => digitsIn? 10 digits

/-- The parts of a host, without an empty one behind a dot at its end. -/
def parts (host : List Char) : List (List Char) :=
  let all := Text.cutAt (· == '.') host
  if 1 < all.length && all.getLast? == some [] then all.dropLast else all

/-- A host whose last part looks like a number has to be an address. -/
def expected (host : List Char) : Bool :=
  match (parts host).getLast? with
  | some last => (!last.isEmpty && last.all Char.isDigit) || (number? last).isSome
  | none => false

/-- The leading numbers are one byte each, from the highest byte down. -/
def combine : Nat → List Nat → Nat → Option Nat
  | room, [], last => if last < 256 ^ room then some last else none
  | room, byte :: bytes, last =>
    if byte < 256 then (combine (room - 1) bytes last).map (byte * 256 ^ (room - 1) + ·) else none

def read (host : List Char) : Except Fault Nat :=
  match (parts host).mapM number? with
  | some numbers =>
    if 4 < numbers.length then .error .ipv4Address
    else match combine 4 numbers.dropLast (numbers.getLastD 0) with
      | some address => .ok address
      | none => .error .ipv4Address
  | none => .error .ipv4Address

def text (address : Nat) : List Char :=
  let byte := fun (unit : Nat) => Nat.toDigits 10 (address / unit % 256)
  byte 16777216 ++ '.' :: byte 65536 ++ '.' :: byte 256 ++ '.' :: byte 1

end DependencyLinks.Url.Ipv4
