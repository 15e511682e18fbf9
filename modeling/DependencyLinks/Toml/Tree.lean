import DependencyLinks.Json.Basic

/-! Tables while a TOML document is read: which of them may still grow, and how. -/

namespace DependencyLinks.Toml

/-- How a table came about: by its own header, by a header further down, or by a dotted key. -/
inductive Origin where
  | header
  | passed
  | dotted
deriving DecidableEq, Repr

inductive Node where
  | value (value : Json)
  | table (origin : Origin) (entries : List (String × Node))
  | tables (items : List (List (String × Node)))

/-- What a table holds, in the order of first mention. -/
abbrev Entries := List (String × Node)

namespace Entries

/-- Gives a key a node, in place of the one it has. -/
def put (entries : Entries) (key : String) (node : Node) : Entries :=
  match entries with
  | [] => [(key, node)]
  | (other, old) :: rest =>
    if other = key then (key, node) :: rest else (other, old) :: put rest key node

/-- Changes the table at the end of a path. Tables that are missing on the way are put there; a
dotted path leads through no table that has a header, and no path leads through a value. -/
def change (dotted : Bool) (make : Origin → Entries → Option Entries) :
    List String → Origin → Entries → Option Entries
  | [], origin, entries => make origin entries
  | key :: path, _, entries =>
    match entries.lookup key with
    | none => do
      let origin := if dotted then .dotted else .passed
      let child ← change dotted make path origin []
      return put entries key (.table origin child)
    | some (.value _) => none
    | some (.table origin child) =>
      if dotted && origin = .header then none
      else do
        let child ← change dotted make path origin child
        return put entries key (.table origin child)
    | some (.tables items) => do
      let last ← change dotted make path .header (← items.getLast?)
      return put entries key (.tables (items.dropLast ++ [last]))

/-- Puts a value where none is. A dotted key adds to tables of dotted keys only. -/
def assign (path : List String) (key : String) (value : Json) (entries : Entries) :
    Option Entries :=
  change true (fun origin entries =>
    if (!path.isEmpty && origin ≠ .dotted) || (entries.lookup key).isSome then none
    else some (entries ++ [(key, .value value)])) path .header entries

/-- Opens a table under a header. It may have been passed before, but not opened. -/
def openTable (path : List String) (key : String) (entries : Entries) : Option Entries :=
  change false (fun _ entries =>
    match entries.lookup key with
    | none => some (entries ++ [(key, .table .header [])])
    | some (.table .passed child) => some (put entries key (.table .header child))
    | some _ => none) path .header entries

/-- Opens one more table in a list of tables. -/
def openItem (path : List String) (key : String) (entries : Entries) : Option Entries :=
  change false (fun _ entries =>
    match entries.lookup key with
    | none => some (entries ++ [(key, .tables [[]])])
    | some (.tables items) => some (put entries key (.tables (items ++ [[]])))
    | some _ => none) path .header entries

/-- Assigns within the table at the end of a path of headers. -/
def assignAt (header path : List String) (key : String) (value : Json) (entries : Entries) :
    Option Entries :=
  change false (fun _ entries => assign path key value entries) header .header entries

end Entries

mutual

def Node.json : Node → Json
  | .value value => value
  | .table _ entries => .object (Entries.json entries)
  | .tables items => .array (Entries.items items)

def Entries.json : List (String × Node) → List (String × Json)
  | [] => []
  | (key, node) :: rest => (key, node.json) :: Entries.json rest

def Entries.items : List (List (String × Node)) → List Json
  | [] => []
  | entries :: rest => .object (Entries.json entries) :: Entries.items rest

end

end DependencyLinks.Toml
