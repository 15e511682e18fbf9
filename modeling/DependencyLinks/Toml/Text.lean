import DependencyLinks.Settings.Value

/-! Keys and strings of TOML documents. -/

namespace DependencyLinks.Toml

open Settings.Value (hex? char?)

/-- Spaces and tabs. -/
def skip (cs : List Char) : List Char :=
  cs.dropWhile fun c => c == ' ' || c == '\t'

/-- A character of a single line: a tab, or anything but controls. -/
def lineChar (c : Char) : Bool :=
  c == '\t' || (0x20 ≤ c.toNat && c.toNat != 0x7F)

/-- The rest behind a line break, if one is there. -/
def newline? : List Char → Option (List Char)
  | '\n' :: rest => some rest
  | '\r' :: '\n' :: rest => some rest
  | _ => none

/-- White space and line breaks. A carriage return counts only before a line feed. -/
def skipLines (cs : List Char) : List Char :=
  match cs with
  | ' ' :: rest | '\t' :: rest | '\n' :: rest | '\r' :: '\n' :: rest => skipLines rest
  | rest => rest

/-- A comment reaches to the end of its line. -/
def skipComment (cs : List Char) : List Char :=
  match cs with
  | '#' :: rest => rest.dropWhile lineChar
  | rest => rest

/-- Reads an escape behind its backslash. -/
def escape? : List Char → Option (Char × List Char)
  | 'b' :: rest => some ('\x08', rest)
  | 't' :: rest => some ('\t', rest)
  | 'n' :: rest => some ('\n', rest)
  | 'f' :: rest => some ('\x0c', rest)
  | 'r' :: rest => some ('\r', rest)
  | '"' :: rest => some ('"', rest)
  | '\\' :: rest => some ('\\', rest)
  | 'u' :: a :: b :: c :: d :: rest => do
    return (← char? (← hex? [a, b, c, d]), rest)
  | 'U' :: a :: b :: c :: d :: e :: f :: g :: h :: rest => do
    return (← char? (← hex? [a, b, c, d, e, f, g, h]), rest)
  | _ => none

/-- Reads a string of one line behind its opening quote. -/
def readBasic (fuel : Nat) (cs : List Char) : Option (List Char × List Char) :=
  match fuel, cs with
  | 0, _ | _, [] => none
  | _, '"' :: rest => some ([], rest)
  | fuel + 1, '\\' :: rest => do
    let (char, rest) ← escape? rest
    let (text, rest) ← readBasic fuel rest
    return (char :: text, rest)
  | fuel + 1, c :: rest => do
    if lineChar c then
      let (text, rest) ← readBasic fuel rest
      return (c :: text, rest)
    else none

/-- Reads a literal string of one line behind its opening quote. -/
def readLiteral (cs : List Char) : Option (List Char × List Char) :=
  match cs.dropWhile fun c => lineChar c && c != '\'' with
  | '\'' :: rest => some (cs.takeWhile fun c => lineChar c && c != '\'', rest)
  | _ => none

/-- Three quotes close a string of several lines, and up to two more before them belong to it. -/
def close? (quote : Char) (cs : List Char) : Option (List Char × List Char) :=
  let quotes := cs.takeWhile (· == quote)
  if quotes.length < 3 then none
  else
    let kept := min (quotes.length - 3) 2
    some (List.replicate kept quote, cs.drop (kept + 3))

/-- The rest behind a backslash at the end of a line, and behind all white space and line breaks
that follow. -/
def fold? (cs : List Char) : Option (List Char) :=
  (newline? (skip cs)).map skipLines

/-- Reads a string of several lines. A line break is always one line feed. -/
def readLong (quote : Char) (escapes : Bool) (fuel : Nat) (cs : List Char) :
    Option (List Char × List Char) :=
  match fuel, cs with
  | 0, _ | _, [] => none
  | fuel + 1, c :: rest =>
    match close? quote (c :: rest) with
    | some (kept, rest) => some (kept, rest)
    | none =>
      if escapes && c == '\\' then
        match fold? rest with
        | some rest => readLong quote escapes fuel rest
        | none => do
          let (char, rest) ← escape? rest
          let (text, rest) ← readLong quote escapes fuel rest
          return (char :: text, rest)
      else match newline? (c :: rest) with
        | some rest => (readLong quote escapes fuel rest).map fun (text, rest) =>
          ('\n' :: text, rest)
        | none =>
          if lineChar c then (readLong quote escapes fuel rest).map fun (text, rest) =>
            (c :: text, rest)
          else none

/-- Reads a string of several lines behind its opening quotes. A line break right there does not
count. -/
def openLong (quote : Char) (escapes : Bool) (cs : List Char) : Option (List Char × List Char) :=
  let cs := (newline? cs).getD cs
  readLong quote escapes (cs.length + 1) cs

/-- Reads a string with its quotes. -/
def readText : List Char → Option (List Char × List Char)
  | '"' :: '"' :: '"' :: rest => openLong '"' true rest
  | '\'' :: '\'' :: '\'' :: rest => openLong '\'' false rest
  | '"' :: rest => readBasic (rest.length + 1) rest
  | '\'' :: rest => readLiteral rest
  | _ => none

def bareKeyChar (c : Char) : Bool :=
  c.isAlphanum || c == '_' || c == '-'

/-- Reads a key without dots: bare letters, or a string of one line. -/
def readSimpleKey (cs : List Char) : Option (List Char × List Char) :=
  match cs with
  | '"' :: rest => readBasic (rest.length + 1) rest
  | '\'' :: rest => readLiteral rest
  | cs =>
    let key := cs.takeWhile bareKeyChar
    if key.isEmpty then none else some (key, cs.dropWhile bareKeyChar)

/-- Reads a key, its parts between dots. White space around it and its dots does not count. -/
def readKey (fuel : Nat) (cs : List Char) : Option (List String × List Char) :=
  match fuel with
  | 0 => none
  | fuel + 1 => do
    let (part, rest) ← readSimpleKey (skip cs)
    match skip rest with
    | '.' :: rest =>
      let (parts, rest) ← readKey fuel rest
      return (String.ofList part :: parts, rest)
    | rest => return ([String.ofList part], rest)

end DependencyLinks.Toml
