import DependencyLinks.Text.Blank
import DependencyLinks.Text.Cut
import DependencyLinks.Uri

/-! The links between the pages of a thread, as a response header gives them. -/

namespace DependencyLinks.Remote.Link

inductive Relation where
  | first
  | previous
  | next
  | last
deriving DecidableEq, Repr

def Relation.ofName? (name : List Char) : Option Relation :=
  if name = "first".toList then some .first
  else if name = "prev".toList then some .previous
  else if name = "next".toList then some .next
  else if name = "last".toList then some .last
  else none

/-- Drops characters of a kind at both ends. -/
def unwrapped (front back : Char → Bool) (cs : List Char) : List Char :=
  ((cs.dropWhile front).reverse.dropWhile back).reverse

/-- The relation that a parameter names. -/
def relation? (parameter : List Char) : Option Relation :=
  match Text.cutOnce '=' (Text.strip parameter) with
  | (name, some value) =>
    if name = "rel".toList then Relation.ofName? (unwrapped (· == '"') (· == '"') value) else none
  | (_, none) => none

/-- The address of a link and the relations that it stands in. -/
def entry (part : List Char) : List Char × List Relation :=
  match Text.cutAt (· == ';') part with
  | [] => ([], [])
  | address :: parameters =>
    (unwrapped (· == '<') (· == '>') (Text.strip address), parameters.filterMap relation?)

/-- Every address that stands in a relation has to be valid. -/
def entries (header : String) : Except Uri.Fault (List (Relation × Uri)) := do
  let found := (Text.cutAt (· == ',') header.toList).flatMap fun part =>
    let (address, relations) := entry part
    relations.map fun relation => (relation, address)
  found.mapM fun (relation, address) => return (relation, ← Uri.read (String.ofList address))

/-- The last link to a next page. -/
def next? (header : String) : Except Uri.Fault (Option Uri) :=
  (entries header).map fun found =>
    (found.filterMap fun (relation, uri) =>
      if relation = .next then some uri else none).getLast?

end DependencyLinks.Remote.Link
