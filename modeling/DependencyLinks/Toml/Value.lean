import DependencyLinks.Toml.Scalar
import DependencyLinks.Toml.Tree

/-! Values of TOML documents. -/

namespace DependencyLinks.Toml

/-- White space, line breaks and comments between the items of an array. -/
def skipGap (fuel : Nat) (cs : List Char) : List Char :=
  match fuel with
  | 0 => cs
  | fuel + 1 =>
    match skipLines cs with
    | '#' :: rest => skipGap fuel (rest.dropWhile lineChar)
    | rest => rest

/-- Splits off the last part of a key. -/
def splitKey? (parts : List String) : Option (List String × String) :=
  parts.getLast?.map fun key => (parts.dropLast, key)

mutual

/-- Reads a value. `depth` bounds how deep arrays and tables may nest, `fuel` the steps. -/
def readValue (fuel depth : Nat) (cs : List Char) : Option (Json × List Char) :=
  match fuel with
  | 0 => none
  | fuel + 1 =>
    match cs with
    | '"' :: _ | '\'' :: _ => (readText cs).map fun (text, rest) =>
      (.string (String.ofList text), rest)
    | '[' :: rest =>
      if depth = 0 then none
      else (readItems fuel (depth - 1) (skipGap rest.length rest)).map fun (items, rest) =>
        (.array items, rest)
    | '\x7b' :: rest =>
      if depth = 0 then none
      else
        match skip rest with
        | '\x7d' :: rest => some (.object [], rest)
        | rest => (readEntries fuel (depth - 1) [] rest).map fun (entries, rest) =>
          (.object (Entries.json entries), rest)
    | cs => readScalar cs

/-- Reads the items of an array and its closing bracket. A comma may stand before the bracket. -/
def readItems (fuel depth : Nat) (cs : List Char) : Option (List Json × List Char) :=
  match fuel, cs with
  | 0, _ => none
  | _, ']' :: rest => some ([], rest)
  | fuel + 1, cs => do
    let (item, rest) ← readValue fuel depth cs
    match skipGap rest.length rest with
    | ',' :: rest =>
      let (items, rest) ← readItems fuel depth (skipGap rest.length rest)
      return (item :: items, rest)
    | ']' :: rest => return ([item], rest)
    | _ => none

/-- Reads the entries of an inline table and its closing brace. -/
def readEntries (fuel depth : Nat) (entries : Entries) (cs : List Char) :
    Option (Entries × List Char) :=
  match fuel with
  | 0 => none
  | fuel + 1 => do
    let (parts, rest) ← readKey (cs.length + 1) cs
    let (path, key) ← splitKey? parts
    match rest with
    | '=' :: rest =>
      let (value, rest) ← readValue fuel depth (skip rest)
      let entries ← Entries.assign path key value entries
      match skip rest with
      | ',' :: rest => readEntries fuel depth entries rest
      | '\x7d' :: rest => return (entries, rest)
      | _ => none
    | _ => none

end

/-- How deep arrays and inline tables may nest. -/
def nesting : Nat := 80

end DependencyLinks.Toml
