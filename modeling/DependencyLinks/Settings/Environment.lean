import DependencyLinks.Settings.Layer
import DependencyLinks.Settings.Value
import DependencyLinks.Text.Cut

/-! Settings given as environment variables. -/

namespace DependencyLinks.Settings.Environment

/-- How the names of the variables start, in any case. -/
def nameStart : List Char := "downstream_prs_".toList

/-- Two underscores stand for a step into a table, as a dot does. -/
def steps (cs : List Char) : List Char :=
  match cs with
  | '_' :: '_' :: rest => '.' :: steps rest
  | c :: rest => c :: steps rest
  | [] => []

/-- The keys that lead to the value of a variable. A name with an empty key means nothing. -/
def path? (name : String) : Option (List (List Char)) :=
  let lower := name.toList.map Char.toLower
  if nameStart.isPrefixOf lower then
    let keys := Text.cutAt (· == '.') (steps (lower.drop nameStart.length))
    if keys.any List.isEmpty then none else some keys
  else none

/-- A text with a comma is a list, unless a quote, a bracket or a brace opens it. -/
def list (cs : List Char) : Bool :=
  cs.contains ',' && !(cs.head?.map ['[', '\x7b', '"', '\''].contains).getD false

/-- The value of a variable, without the white space around it. -/
def value (raw : RawText) : Json :=
  let cs := Text.strip (Utf8.lossy raw)
  if list cs then
    .array ((Text.cutAt (· == ',') cs).map fun item => .string (String.ofList (Text.strip item)))
  else Value.read cs

/-- A value at the end of a path of keys. -/
def nest (value : Json) (path : List (List Char)) : Json :=
  path.foldr (fun key value => .object [(String.ofList key, value)]) value

/-- Names in the order of their bytes. -/
def sorted (environment : Variables) : Variables :=
  environment.mergeSort fun a b => a.1 ≤ b.1

/-- All variables that set something. Where two set the same, the later name wins. -/
def layer (environment : Variables) : Json :=
  .object ((sorted environment).foldl (fun below (name, raw) =>
    match path? name with
    | some path => Json.overlayMembers below (nest (value raw) path).members
    | none => below) [])

end DependencyLinks.Settings.Environment
