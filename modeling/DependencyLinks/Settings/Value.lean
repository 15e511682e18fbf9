import DependencyLinks.Json.Basic
import DependencyLinks.Text.Blank
import DependencyLinks.Text.Decimal
import DependencyLinks.Url.Escape

/-!
Values written without a format around them, as in environment variables. Quotes, brackets and
braces open strings, lists and tables; words and numbers are what they look like; and a text that
fits nothing stands for itself.
-/

namespace DependencyLinks.Settings.Value

def space (c : Char) : Bool :=
  c == ' ' || c == '\t' || c == '\n' || c == '\r' || c == '\x0c'

def skip (cs : List Char) : List Char :=
  cs.dropWhile space

def separator (c : Char) : Bool :=
  [',', '\x7b', '\x7d', '[', ']'].contains c

/-- The number that hexadecimal digits write, if each of them is one. -/
def hex? (digits : List Char) : Option Nat :=
  (digits.mapM Url.hexValue?).map fun values =>
    values.foldl (fun value digit => 16 * value + digit) 0

/-- The character with this code point, which is no surrogate. -/
def char? (n : Nat) : Option Char :=
  if n < 0xD800 || (0xDFFF < n && n < 0x110000) then some (Char.ofNat n) else none

/-- A character that stands in a string as it is. -/
def plain (c : Char) : Bool :=
  c == '\t' || (0x20 ≤ c.toNat && c.toNat != 0x7F)

/-- The rest behind a backslash and white space: a line break has to come before anything else, and
all white space behind it is dropped too. -/
def fold? (cs : List Char) : Option (List Char) :=
  match cs.dropWhile fun c => c == ' ' || c == '\t' with
  | '\n' :: rest => some (rest.dropWhile fun c => c == ' ' || c == '\t' || c == '\n')
  | _ => none

/-- Reads the escapes of a string. -/
def unescape? (cs : List Char) : Option (List Char) :=
  match cs with
  | [] => some []
  | '\\' :: 'u' :: a :: b :: c :: d :: rest => do
    let char ← char? (← hex? [a, b, c, d])
    return char :: (← unescape? rest)
  | '\\' :: 'U' :: a :: b :: c :: d :: e :: f :: g :: h :: rest => do
    let char ← char? (← hex? [a, b, c, d, e, f, g, h])
    return char :: (← unescape? rest)
  | '\\' :: letter :: rest =>
    match letter with
    | '"' => (unescape? rest).map ('"' :: ·)
    | '\\' => (unescape? rest).map ('\\' :: ·)
    | 'b' => (unescape? rest).map ('\x08' :: ·)
    | 'f' => (unescape? rest).map ('\x0c' :: ·)
    | 'n' => (unescape? rest).map ('\n' :: ·)
    | 'r' => (unescape? rest).map ('\r' :: ·)
    | 't' => (unescape? rest).map ('\t' :: ·)
    | _ =>
      match fold? (letter :: rest) with
      | some folded => if folded.length ≤ rest.length then unescape? folded else none
      | none => none
  | c :: rest => if c != '\\' && plain c then (unescape? rest).map (c :: ·) else none
termination_by cs.length
decreasing_by all_goals simp only [List.length_cons]; omega

/-- The text of a string up to the quote that no backslash stands before, and what is behind it. -/
def quotedText? : List Char → Option (List Char × List Char)
  | [] => none
  | '"' :: rest => some ([], rest)
  | '\\' :: c :: rest => (quotedText? rest).map fun (text, rest) => ('\\' :: c :: text, rest)
  | c :: rest => (quotedText? rest).map fun (text, rest) => (c :: text, rest)

/-- Reads a string behind its opening quote. -/
def readQuoted (cs : List Char) : Option (List Char × List Char) := do
  let (text, rest) ← quotedText? cs
  return (← unescape? text, rest)

/-- An exponent is a letter, a sign or none, and digits. -/
def exponent (cs : List Char) : Bool :=
  match cs with
  | [] => true
  | e :: rest =>
    let digits := match rest with
      | '+' :: digits | '-' :: digits => digits
      | digits => digits
    (e == 'e' || e == 'E') && !digits.isEmpty && digits.all Char.isDigit

def unsigned (cs : List Char) : List Char :=
  match cs with
  | '+' :: rest | '-' :: rest => rest
  | rest => rest

/-- A number with a point, digits on one side of it at least, and maybe an exponent. -/
def decimal (cs : List Char) : Bool :=
  let whole := (unsigned cs).takeWhile Char.isDigit
  match (unsigned cs).dropWhile Char.isDigit with
  | '.' :: rest =>
    !(whole.isEmpty && (rest.takeWhile Char.isDigit).isEmpty) &&
      exponent (rest.dropWhile Char.isDigit)
  | _ => false

/-- A whole number of 64 bits, with a sign or without one. -/
def whole (cs : List Char) : Bool :=
  match cs with
  | '-' :: digits =>
    !digits.isEmpty && digits.all Char.isDigit && Text.decimalValue digits ≤ Text.wordBound / 2
  | cs => (Text.word? cs).isSome

/-- What text without any mark around it means. -/
def bare (cs : List Char) : Json :=
  if decimal cs || whole cs then .numeral (String.ofList cs) else .string (String.ofList cs)

def keyChar (c : Char) : Bool :=
  c.isAlphanum || c == '_' || c == '-'

def readKey (cs : List Char) : Option (List Char × List Char) :=
  match cs with
  | '"' :: rest => readQuoted rest
  | cs =>
    let key := cs.takeWhile keyChar
    if key.isEmpty then none else some (key, cs.dropWhile keyChar)

mutual

/-- Reads a value and the white space around it. `fuel` bounds the steps. -/
def readValue (fuel : Nat) (cs : List Char) : Option (Json × List Char) :=
  match fuel with
  | 0 => none
  | fuel + 1 => do
    let (value, rest) ←
      match skip cs with
      | 't' :: 'r' :: 'u' :: 'e' :: rest => some (.bool true, rest)
      | 'f' :: 'a' :: 'l' :: 's' :: 'e' :: rest => some (.bool false, rest)
      | '\x7b' :: rest => (readEntries fuel rest).map fun (entries, rest) => (.object entries, rest)
      | '[' :: rest => (readItems fuel rest).map fun (items, rest) => (.array items, rest)
      | '"' :: rest => (readQuoted rest).map fun (text, rest) => (.string (String.ofList text), rest)
      | rest =>
        some (bare (Text.strip (rest.takeWhile (!separator ·))), rest.dropWhile (!separator ·))
    return (value, skip rest)

/-- Reads the items of a list and its closing bracket. A comma may stand before the bracket. -/
def readItems (fuel : Nat) (cs : List Char) : Option (List Json × List Char) :=
  match fuel, cs with
  | 0, _ => none
  | _, ']' :: rest => some ([], rest)
  | fuel + 1, cs => do
    let (item, rest) ← readValue fuel cs
    match rest with
    | ',' :: rest =>
      let (items, rest) ← readItems fuel rest
      return (item :: items, rest)
    | ']' :: rest => return ([item], rest)
    | _ => none

/-- Reads the entries of a table and its closing brace. -/
def readEntries (fuel : Nat) (cs : List Char) : Option (List (String × Json) × List Char) :=
  match fuel, cs with
  | 0, _ => none
  | _, '\x7d' :: rest => some ([], rest)
  | fuel + 1, cs => do
    let (key, rest) ← readKey (skip cs)
    match skip rest with
    | '=' :: rest =>
      let (value, rest) ← readValue fuel rest
      match rest with
      | ',' :: rest =>
        let (entries, rest) ← readEntries fuel rest
        return ((String.ofList key, value) :: entries, rest)
      | '\x7d' :: rest => return ([(String.ofList key, value)], rest)
      | _ => none
    | _ => none

end

/-- Reads a whole text. -/
def read (cs : List Char) : Json :=
  match readValue (2 * cs.length + 2) cs with
  | some (value, []) => value
  | _ => .string (String.ofList cs)

end DependencyLinks.Settings.Value
