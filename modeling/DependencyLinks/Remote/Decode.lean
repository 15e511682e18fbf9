import DependencyLinks.Json.Read
import DependencyLinks.PullRequest

/-! What the bodies of responses mean. -/

namespace DependencyLinks.Remote

/-- A text or nothing. -/
def optionalText? : Json → Option (Option String)
  | .null => some none
  | .string s => some (some s)
  | _ => none

def natural? : Json → Option Nat
  | .natural n => some n
  | _ => none

/-- The only value that a key is given, if any. -/
def single? (members : List (String × Json)) (key : String) : Option (Option Json) :=
  match Json.values members key with
  | [] => some none
  | [value] => some (some value)
  | _ => none

/-- The login of a user, who may be unknown. -/
def login? : Json → Option (Option String)
  | .null => some none
  | .object members => do optionalText? ((← single? members "login").getD .null)
  | .array [login] => optionalText? login
  | _ => none

def metadata? (number title state page user : Json) : Option Metadata := do
  return {
    number := ← natural? number
    title := ← optionalText? title
    state := ← optionalText? state
    page := ← optionalText? page
    author := ← login? user }

/-- A pull request is an object that gives no known key twice, or the list of its values. -/
def Metadata.ofJson? : Json → Option Metadata
  | .object members => do
    let value := fun (key : String) => (single? members key).map (·.getD .null)
    metadata? (← value "number") (← value "title") (← value "state") (← value "html_url")
      (← value "user")
  | .array [number, title, state, page, user] => metadata? number title state page user
  | _ => none

def Metadata.read (body : String) : Option Metadata := do
  Metadata.ofJson? (← Json.readFirst body).1

/-- Of a key that is given twice the last value counts. -/
def lastLogin? : Json → Option (Option String)
  | .null => some none
  | .object members => optionalText? ((Json.last? members "login").getD .null)
  | .array [login] => optionalText? login
  | _ => none

def comment? (id body user : Json) : Option Comment := do
  return { id := ← natural? id, body := ← optionalText? body, author := ← lastLogin? user }

def Comment.ofJson? : Json → Option Comment
  | .object members =>
    let value := fun (key : String) => (Json.last? members key).getD .null
    comment? (value "id") (value "body") (value "user")
  | .array [id, body, user] => comment? id body user
  | _ => none

/-- The keys under which a page may keep its items. -/
def itemKeys : List String :=
  ["items", "workflows", "workflow_runs", "jobs", "artifacts", "repositories", "installations",
    "runners"]

/-- The items of a page: the value itself or what it keeps under the first of the known keys. -/
def items? : Json → Option (List Json)
  | .array items => some items
  | .object members =>
    match itemKeys.findSome? (Json.last? members) with
    | some (.array items) => some items
    | _ => none
  | _ => none

def comments? (body : String) : Option (List Comment) := do
  (← items? (← Json.read body)).mapM Comment.ofJson?

/-- The message of an error body. Where it has more to say, that is of the right kind as well. -/
def errorMessage? (body : String) : Option String := do
  match ← Json.read body with
  | .object members =>
    let _ ← optionalText? ((← single? members "documentation_url").getD .null)
    match (← single? members "errors").getD .null with
    | .null | .array _ =>
      match ← single? members "message" with
      | some (.string message) => return message
      | _ => none
    | _ => none
  | _ => none

end DependencyLinks.Remote
