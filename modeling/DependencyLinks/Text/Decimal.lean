/-! Natural numbers written in decimal digits. -/

namespace DependencyLinks.Text

def digitValue (c : Char) : Nat :=
  c.toNat - '0'.toNat

/-- The number that a row of digits writes, leading zeros allowed. -/
def decimalValue (digits : List Char) : Nat :=
  digits.foldl (fun value c => 10 * value + digitValue c) 0

/-- One more than the largest number of 64 bits. -/
def wordBound : Nat := 18446744073709551616

/-- One more digit behind a number, unless the number then takes more than 64 bits. -/
def push? (value : Nat) (c : Char) : Option Nat :=
  if c.isDigit && 10 * value + digitValue c < wordBound then some (10 * value + digitValue c)
  else none

/-- Reads one or more digits as a number of 64 bits. -/
def digits? (cs : List Char) : Option Nat :=
  if cs.isEmpty then none else cs.foldlM push? 0

/-- Reads a number of 64 bits: digits, after one plus sign or none. -/
def word? : List Char → Option Nat
  | '+' :: cs => digits? cs
  | cs => digits? cs

end DependencyLinks.Text
