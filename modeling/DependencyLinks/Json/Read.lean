import DependencyLinks.Json.Basic
import DependencyLinks.Text.Decimal
import DependencyLinks.Url.Escape

/-! Reading JSON texts. -/

namespace DependencyLinks.Json

/-- The rest of a text behind white space. -/
def skip (cs : List Char) : List Char :=
  cs.dropWhile fun c => c == ' ' || c == '\n' || c == '\t' || c == '\r'

def hexUnit? : List Char → Option Nat
  | [a, b, c, d] => do
    return 4096 * (← Url.hexValue? a) + 256 * (← Url.hexValue? b) + 16 * (← Url.hexValue? c) +
      (← Url.hexValue? d)
  | _ => none

/-- The character of an escape by a single letter. -/
def letterEscape? : Char → Option Char
  | '"' => some '"'
  | '\\' => some '\\'
  | '/' => some '/'
  | 'b' => some '\x08'
  | 'f' => some '\x0c'
  | 'n' => some '\n'
  | 'r' => some '\r'
  | 't' => some '\t'
  | _ => none

/-- Two units for one character above U+FFFF: a high one and a low one behind it. -/
def pair? (high low : Nat) : Option Char :=
  if 0xD800 ≤ high && high ≤ 0xDBFF && 0xDC00 ≤ low && low ≤ 0xDFFF then
    some (Char.ofNat (0x10000 + (high - 0xD800) * 0x400 + (low - 0xDC00)))
  else none

/-- Reads a string behind its opening quote. -/
def readText : List Char → Option (List Char × List Char)
  | [] => none
  | '"' :: rest => some ([], rest)
  | '\\' :: 'u' :: a :: b :: c :: d :: rest => do
    let unit ← hexUnit? [a, b, c, d]
    if unit < 0xD800 || 0xDFFF < unit then
      let (text, rest) ← readText rest
      return (Char.ofNat unit :: text, rest)
    else match rest with
      | '\\' :: 'u' :: e :: f :: g :: h :: rest => do
        let char ← pair? unit (← hexUnit? [e, f, g, h])
        let (text, rest) ← readText rest
        return (char :: text, rest)
      | _ => none
  | '\\' :: letter :: rest => do
    let char ← letterEscape? letter
    let (text, rest) ← readText rest
    return (char :: text, rest)
  | c :: rest =>
    if c.toNat < 0x20 || c == '\\' then none
    else do
      let (text, rest) ← readText rest
      return (c :: text, rest)

/-- The digits at the start of a text, of which there has to be one. -/
def digits? (cs : List Char) : Option (List Char × List Char) :=
  let digits := cs.takeWhile Char.isDigit
  if digits.isEmpty then none else some (digits, cs.dropWhile Char.isDigit)

/-- A whole part has no leading zero. -/
def whole? (cs : List Char) : Option (List Char × List Char) :=
  match cs with
  | '0' :: rest => some (['0'], rest)
  | _ => digits? cs

def fraction? (cs : List Char) : Option (List Char × List Char) :=
  match cs with
  | '.' :: rest => (digits? rest).map fun (digits, rest) => ('.' :: digits, rest)
  | _ => some ([], cs)

def exponent? (cs : List Char) : Option (List Char × List Char) :=
  match cs with
  | e :: rest =>
    if e == 'e' || e == 'E' then
      match rest with
      | sign :: more =>
        if sign == '+' || sign == '-' then
          (digits? more).map fun (digits, rest) => (e :: sign :: digits, rest)
        else (digits? rest).map fun (digits, rest) => (e :: digits, rest)
      | [] => none
    else some ([], cs)
  | [] => some ([], cs)

/-- A number without sign, fraction and exponent counts as natural if it has at most 64 bits. -/
def readNumber (cs : List Char) : Option (Json × List Char) := do
  let (sign, rest) := match cs with
    | '-' :: rest => (['-'], rest)
    | _ => ([], cs)
  let (whole, rest) ← whole? rest
  let (fraction, rest) ← fraction? rest
  let (exponent, rest) ← exponent? rest
  let written := sign ++ whole ++ fraction ++ exponent
  match Text.digits? written with
  | some n => return (.natural n, rest)
  | none => return (.numeral (String.ofList written), rest)

/-- A word that stands at the start of a text is read. -/
def readWord (word : String) (value : Json) (cs : List Char) : Option (Json × List Char) :=
  if word.toList.isPrefixOf cs then some (value, cs.drop word.length) else none

mutual

/-- Reads a value. `depth` bounds how deep arrays and objects may nest, `fuel` the steps. -/
def readValue (fuel depth : Nat) (cs : List Char) : Option (Json × List Char) :=
  match fuel with
  | 0 => none
  | fuel + 1 =>
    match skip cs with
    | '"' :: rest => (readText rest).map fun (text, rest) => (.string (String.ofList text), rest)
    | '[' :: rest =>
      if depth ≤ 1 then none
      else match skip rest with
        | ']' :: rest => some (.array [], rest)
        | rest => (readItems fuel (depth - 1) rest).map fun (items, rest) => (.array items, rest)
    | '\x7b' :: rest =>
      if depth ≤ 1 then none
      else match skip rest with
        | '\x7d' :: rest => some (.object [], rest)
        | rest => (readMembers fuel (depth - 1) rest).map fun (members, rest) =>
          (.object members, rest)
    | 'n' :: rest => readWord "null" .null ('n' :: rest)
    | 't' :: rest => readWord "true" (.bool true) ('t' :: rest)
    | 'f' :: rest => readWord "false" (.bool false) ('f' :: rest)
    | rest => readNumber rest

/-- Reads the items of an array and the bracket behind them. -/
def readItems (fuel depth : Nat) (cs : List Char) : Option (List Json × List Char) :=
  match fuel with
  | 0 => none
  | fuel + 1 => do
    let (item, rest) ← readValue fuel depth cs
    match skip rest with
    | ',' :: rest =>
      let (items, rest) ← readItems fuel depth rest
      return (item :: items, rest)
    | ']' :: rest => return ([item], rest)
    | _ => none

/-- Reads the members of an object and the brace behind them. -/
def readMembers (fuel depth : Nat) (cs : List Char) : Option (List (String × Json) × List Char) :=
  match fuel with
  | 0 => none
  | fuel + 1 =>
    match skip cs with
    | '"' :: rest => do
      let (key, rest) ← readText rest
      match skip rest with
      | ':' :: rest =>
        let (value, rest) ← readValue fuel depth rest
        match skip rest with
        | ',' :: rest =>
          let (members, rest) ← readMembers fuel depth rest
          return ((String.ofList key, value) :: members, rest)
        | '\x7d' :: rest => return ([(String.ofList key, value)], rest)
        | _ => none
      | _ => none
    | _ => none

end

/-- How deep values may nest, the outermost value included. -/
def nesting : Nat := 128

/-- Reads the value that a text starts with. -/
def readFirst (text : String) : Option (Json × List Char) :=
  readValue (2 * text.length + 2) nesting text.toList

/-- Reads a text that is one value. -/
def read (text : String) : Option Json := do
  let (value, rest) ← readFirst text
  if (skip rest).isEmpty then some value else none

end DependencyLinks.Json
