import DependencyLinks.Json.Basic
import DependencyLinks.Settings.Basic

/-! Settings put together from layers, of which the later ones win. -/

namespace DependencyLinks

namespace Json

/-- Gives a key a value, in place of the one it has. -/
def put (members : List (String × Json)) (key : String) (value : Json) : List (String × Json) :=
  match members with
  | [] => [(key, value)]
  | (other, old) :: rest =>
    if other = key then (key, value) :: rest else (other, old) :: put rest key value

/-- The members of an object, and none of any other value. -/
def members : Json → List (String × Json)
  | .object members => members
  | _ => []

mutual

/-- Lays a value over another one. Objects are laid over each other key by key. -/
def overlay (below : Json) : Json → Json
  | .object above => .object (overlayMembers below.members above)
  | above => above

def overlayMembers (below : List (String × Json)) : List (String × Json) → List (String × Json)
  | [] => below
  | (key, value) :: above =>
    overlayMembers (put below key (overlay ((below.lookup key).getD .null) value)) above

end

end Json

namespace Settings

/-- A field is a text, or it is absent or null. -/
def text? : Option Json → Option (Option String)
  | none | some .null => some none
  | some (.string s) => some (some s)
  | some _ => none

/-- Reads the six fields and no others. -/
def ofMembers? (members : List (String × Json)) : Option Settings := do
  let value := fun (field : Field) => text? (members.lookup field.key)
  return {
    token := ← value .token
    owner := ← value .owner
    repository := ← value .repository
    apiBase := ← value .apiBase
    marker := ← value .marker
    linkStart := ← value .linkStart }

def isObject : Json → Bool
  | .object _ => true
  | _ => false

/-- Layers upon each other, the last on top. -/
def stack (layers : List Json) : List (String × Json) :=
  layers.foldl (fun below layer => Json.overlayMembers below layer.members) []

/-- Every layer has to be an object, and one of them has to have a key. -/
def ofLayers? (layers : List Json) : Option Settings :=
  if layers.all isObject && !(stack layers).isEmpty then ofMembers? (stack layers) else none

end Settings

end DependencyLinks
