import DependencyLinks.Toml.Value

/-! Reading TOML documents, line by line. -/

namespace DependencyLinks.Toml

/-- A document as far as it is read, and the header that the next line belongs to. -/
structure Draft where
  root : Entries := []
  header : List String := []

/-- The rest behind the end of a line, of which only a comment may be left. -/
def endLine? (cs : List Char) : Option (List Char) :=
  match skipComment (skip cs) with
  | [] => some []
  | rest => newline? rest

/-- Reads a header behind its brackets, and the brackets that close it. -/
def readHeader (close : List Char) (cs : List Char) : Option (List String × List Char) := do
  let (parts, rest) ← readKey (cs.length + 1) cs
  if close.isPrefixOf rest then return (parts, rest.drop close.length) else none

/-- Reads what a line says, up to the end of the line. -/
def readLine (draft : Draft) (cs : List Char) : Option (Draft × List Char) :=
  match cs with
  | '[' :: '[' :: rest => do
    let (parts, rest) ← readHeader [']', ']'] rest
    let (path, key) ← splitKey? parts
    return ({ root := ← Entries.openItem path key draft.root, header := parts }, rest)
  | '[' :: rest => do
    let (parts, rest) ← readHeader [']'] rest
    let (path, key) ← splitKey? parts
    return ({ root := ← Entries.openTable path key draft.root, header := parts }, rest)
  | '#' :: _ | '\n' :: _ | '\r' :: _ | [] => some (draft, cs)
  | cs => do
    let (parts, rest) ← readKey (cs.length + 1) cs
    let (path, key) ← splitKey? parts
    match rest with
    | '=' :: rest =>
      let (value, rest) ← readValue (2 * cs.length + 2) nesting (skip rest)
      return ({ draft with root := ← Entries.assignAt draft.header path key value draft.root }, rest)
    | _ => none

def readLines (fuel : Nat) (draft : Draft) (cs : List Char) : Option Draft :=
  match fuel with
  | 0 => none
  | fuel + 1 => do
    let (draft, rest) ← readLine draft (skip cs)
    match ← endLine? rest with
    | [] => return draft
    | rest => readLines fuel draft rest

/-- Reads a document as an object. A byte order mark may stand before it. -/
def read (document : String) : Option Json := do
  let cs := match document.toList with
    | '\uFEFF' :: rest => rest
    | cs => cs
  let draft ← readLines (cs.length + 1) {} cs
  return .object (Entries.json draft.root)

end DependencyLinks.Toml
