import DependencyLinks.Text.Cut
import DependencyLinks.Text.Decimal
import DependencyLinks.Url.Escape
import DependencyLinks.Url.Fault

/-!
IPv6 addresses: eight pieces of sixteen bits. One row of zero pieces may be left out between two
colons, and the last two pieces may be written as four decimal bytes.
-/

namespace DependencyLinks.Url.Ipv6

/-- One to four hexadecimal digits. -/
def piece? (cs : List Char) : Option Nat :=
  if cs.isEmpty || 4 < cs.length then none
  else (cs.mapM hexValue?).map fun digits => digits.foldl (fun value digit => 16 * value + digit) 0

/-- A decimal byte without a leading zero. -/
def byte? (cs : List Char) : Option Nat :=
  if cs.isEmpty || 3 < cs.length || !cs.all Char.isDigit then none
  else if 1 < cs.length && cs.head? == some '0' then none
  else if Text.decimalValue cs < 256 then some (Text.decimalValue cs)
  else none

/-- Four decimal bytes, read as two pieces. -/
def dotted? (cs : List Char) : Option (List Nat) :=
  match (Text.cutAt (· == '.') cs).mapM byte? with
  | some [a, b, c, d] => some [256 * a + b, 256 * c + d]
  | _ => none

/-- The pieces of a stretch without two adjoining colons. Only its last group may be dotted, and
only if the address ends with it. -/
def stretch? (final : Bool) : List (List Char) → Option (List Nat)
  | [] => some []
  | [last] =>
    if final && last.contains '.' then dotted? last else (piece? last).map ([·])
  | group :: groups => do return (← piece? group) :: (← stretch? final groups)

def groups (cs : List Char) : List (List Char) :=
  if cs.isEmpty then [] else Text.cutAt (· == ':') cs

/-- Cuts at the first two adjoining colons. -/
def cutAtGap : List Char → List Char × Option (List Char)
  | [] => ([], none)
  | ':' :: ':' :: rest => ([], some rest)
  | c :: rest =>
    let (before, after) := cutAtGap rest
    (c :: before, after)

def pieces? (cs : List Char) : Option (List Nat) :=
  match cutAtGap cs with
  | (all, none) => (stretch? true (groups all)).filter (·.length == 8)
  | (before, some after) => do
    let head ← stretch? false (groups before)
    let tail ← stretch? true (groups after)
    if head.length + tail.length < 8 then
      return head ++ List.replicate (8 - head.length - tail.length) 0 ++ tail
    else none

def read (cs : List Char) : Except Fault (List Nat) :=
  match pieces? cs with
  | some pieces => .ok pieces
  | none => .error .ipv6Address

/-- How many zero pieces a list starts with. -/
def zeros (pieces : List Nat) : Nat :=
  (pieces.takeWhile (· == 0)).length

/-- Where the longest row of zero pieces starts, the first of several, and how long it is. -/
def longestGap : Nat → List Nat → Nat × Nat
  | start, [] => (start, 0)
  | start, piece :: rest =>
    let here := zeros (piece :: rest)
    let later := longestGap (start + 1) rest
    if later.2 ≤ here then (start, here) else later

def joined (pieces : List Nat) : List Char :=
  (pieces.map (Nat.toDigits 16)).intersperse [':'] |>.flatten

/-- Lower-case hexadecimal without leading zeros. Of two or more zero pieces in a row the longest
row is left out. -/
def text (pieces : List Nat) : List Char :=
  let (start, length) := longestGap 0 pieces
  if length < 2 then joined pieces
  else joined (pieces.take start) ++ [':', ':'] ++ joined (pieces.drop (start + length))

end DependencyLinks.Url.Ipv6
