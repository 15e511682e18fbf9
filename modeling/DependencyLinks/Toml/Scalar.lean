import DependencyLinks.Json.Basic
import DependencyLinks.Text.Decimal
import DependencyLinks.Toml.Text

/-! Numbers, moments and words of TOML documents. Moments are kept as they are written. -/

namespace DependencyLinks.Toml

/-- Digits of some kind, between which single underscores may stand. -/
def grouped (digit : Char → Bool) : List Char → Bool
  | [] => false
  | [c] => digit c
  | c :: '_' :: rest => digit c && grouped digit rest
  | c :: rest => digit c && grouped digit rest

def plainDigits (cs : List Char) : List Char :=
  cs.filter (· != '_')

def unsigned (cs : List Char) : List Char :=
  match cs with
  | '+' :: rest | '-' :: rest => rest
  | rest => rest

/-- Decimal digits without a zero in front of others. -/
def wholePart (cs : List Char) : Bool :=
  grouped Char.isDigit cs && (cs.length == 1 || cs.head? != some '0')

/-- The value of hexadecimal digits in a smaller base, if each of them belongs to it. -/
def inBase (base : Nat) (cs : List Char) : Option Nat :=
  let digit := fun c => (Url.hexValue? c).filter (· < base)
  if grouped (fun c => (digit c).isSome) cs then
    ((plainDigits cs).mapM digit).map fun digits =>
      digits.foldl (fun value digit => base * value + digit) 0
  else none

/-- Whole numbers have 64 bits, one of them for the sign. -/
def integer (cs : List Char) : Bool :=
  match cs with
  | '0' :: 'x' :: digits => (inBase 16 digits).any (· < Text.wordBound / 2)
  | '0' :: 'o' :: digits => (inBase 8 digits).any (· < Text.wordBound / 2)
  | '0' :: 'b' :: digits => (inBase 2 digits).any (· < Text.wordBound / 2)
  | '-' :: digits =>
    wholePart digits && Text.decimalValue (plainDigits digits) ≤ Text.wordBound / 2
  | cs => wholePart (unsigned cs) && Text.decimalValue (plainDigits (unsigned cs)) < Text.wordBound / 2

def exponent (cs : List Char) : Bool :=
  match cs with
  | [] => true
  | e :: rest => (e == 'e' || e == 'E') && grouped Char.isDigit (unsigned rest)

/-- A fraction, an exponent or both behind a whole part, or a word for what is no number. -/
def float (cs : List Char) : Bool :=
  let bare := unsigned cs
  if bare = "inf".toList ∨ bare = "nan".toList then true
  else
    let inside := fun c => c.isDigit || c == '_'
    let whole := bare.takeWhile inside
    match bare.dropWhile inside with
    | '.' :: rest =>
      wholePart whole && grouped Char.isDigit (rest.takeWhile inside) &&
        exponent (rest.dropWhile inside)
    | rest => !rest.isEmpty && wholePart whole && exponent rest

/-- Two digits with a value in a range. -/
def pair (low high : Nat) (cs : List Char) : Bool :=
  cs.length == 2 && cs.all Char.isDigit && low ≤ Text.decimalValue cs && Text.decimalValue cs ≤ high

def leap (year : Nat) : Bool :=
  year % 4 == 0 && (year % 100 != 0 || year % 400 == 0)

def daysIn (year month : Nat) : Nat :=
  if month = 2 then (if leap year then 29 else 28)
  else if [4, 6, 9, 11].contains month then 30
  else 31

def date (cs : List Char) : Bool :=
  match cs with
  | [a, b, c, d, '-', e, f, '-', g, h] =>
    [a, b, c, d].all Char.isDigit && pair 1 12 [e, f] &&
      pair 1 (daysIn (Text.decimalValue [a, b, c, d]) (Text.decimalValue [e, f])) [g, h]
  | _ => false

/-- Hours, minutes and seconds, the last with a fraction or without one. -/
def time (cs : List Char) : Bool :=
  match cs with
  | a :: b :: ':' :: c :: d :: ':' :: e :: f :: rest =>
    pair 0 23 [a, b] && pair 0 59 [c, d] && pair 0 60 [e, f] &&
      match rest with
      | [] => true
      | '.' :: digits => !digits.isEmpty && digits.all Char.isDigit
      | _ => false
  | _ => false

def zone (cs : List Char) : Bool :=
  match cs with
  | [] => true
  | [z] => z == 'Z' || z == 'z'
  | [sign, a, b, ':', c, d] => (sign == '+' || sign == '-') && pair 0 23 [a, b] && pair 0 59 [c, d]
  | _ => false

/-- A time and where it holds. -/
def zonedTime (cs : List Char) : Bool :=
  let inside := fun c => c.isDigit || c == ':' || c == '.'
  time (cs.takeWhile inside) && zone (cs.dropWhile inside)

/-- A date, a time, or a date and a time behind a letter or a space. -/
def moment (cs : List Char) : Bool :=
  date cs || time cs ||
    (date (cs.take 10) && (match cs.drop 10 with
      | mark :: rest => (mark == 'T' || mark == 't' || mark == ' ') && zonedTime rest
      | [] => false))

def scalarChar (c : Char) : Bool :=
  c.isAlphanum || ['_', '+', '-', '.', ':'].contains c

/-- The characters of a scalar and the rest. A space belongs to a date that a digit follows. -/
def cutScalar (cs : List Char) : List Char × List Char :=
  let first := cs.takeWhile scalarChar
  match cs.dropWhile scalarChar with
  | ' ' :: c :: rest =>
    if date first && c.isDigit then
      (first ++ ' ' :: (c :: rest).takeWhile scalarChar, (c :: rest).dropWhile scalarChar)
    else (first, ' ' :: c :: rest)
  | rest => (first, rest)

/-- Reads a word, a number or a moment. -/
def readScalar (cs : List Char) : Option (Json × List Char) :=
  let (written, rest) := cutScalar cs
  if written = "true".toList then some (.bool true, rest)
  else if written = "false".toList then some (.bool false, rest)
  else if integer written || float written || moment written then
    some (.numeral (String.ofList written), rest)
  else none

end DependencyLinks.Toml
