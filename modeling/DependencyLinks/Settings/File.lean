import DependencyLinks.Settings.Basic
import DependencyLinks.Text.Cut
import DependencyLinks.Toml.Document

/-! Settings given as a file, and the places where one may be. -/

namespace DependencyLinks.Settings

/-- Where a program runs: its directories and the files it can read. -/
structure Surroundings where
  environment : Variables := []
  home : Option String := none
  configHome : Option String := none
  configDirectories : List String := []
  workingDirectory : String
  file? : String → Option RawText

/-- The surroundings without any file, as variables and the working directory tell them. -/
def Surroundings.ofVariables (environment : Variables) (workingDirectory : String) :
    Surroundings :=
  let filled := fun (name : String) => (textOf? environment name).filter (!·.isEmpty)
  let directories := (filled "XDG_CONFIG_DIRS").getD "/etc/xdg"
  { environment, workingDirectory
    home := filled "HOME"
    configHome := filled "XDG_CONFIG_HOME"
    configDirectories :=
      ((Text.cutAt (· == ':') directories.toList).filter (!·.isEmpty)).map String.ofList
    file? := fun _ => none }

namespace File

/-- The variable that names a file to try first. -/
def pathVariable : String := "DOWNSTREAM_PRS_CONFIG_PATH"

def dotName : String := ".downstream-prs.toml"

/-- The places below a directory for configuration. -/
def below (directory : String) : List String :=
  [directory ++ "/downstream-prs/downstream-prs.toml", directory ++ "/" ++ dotName]

/-- All places, the first to be tried first. -/
def places (surroundings : Surroundings) : List String :=
  let named := (surroundings.environment.lookup pathVariable).toList.map RawText.lossy
  let home := surroundings.home.toList
  named.filter (!·.isEmpty) ++
    surroundings.configHome.toList.flatMap below ++
    surroundings.configDirectories.flatMap below ++
    (home.map (· ++ "/.config")).flatMap below ++
    home.map (· ++ "/" ++ dotName) ++
    [surroundings.workingDirectory ++ "/" ++ dotName]

/-- One step of a path: nothing and a single dot stay, two dots go up. -/
def step (taken : List (List Char)) (part : List Char) : List (List Char) :=
  if part.isEmpty || part == ['.'] then taken
  else if part == ['.', '.'] then taken.drop 1
  else part :: taken

/-- The path that another one stands for in a directory. -/
def resolve (directory path : String) : String :=
  let full := if path.startsWith "/" then path else directory ++ "/" ++ path
  let parts := ((Text.cutAt (· == '/') full.toList).foldl step []).reverse
  String.ofList (parts.flatMap ('/' :: ·))

inductive Attempt where
  | missing
  | broken
  | loaded (layer : Json)

/-- Only one format is read, whatever the endings of other formats promise. -/
def otherFormat (path : String) : Bool :=
  [".json", ".json5", ".yaml", ".yml"].any fun ending => path.toLower.endsWith ending

def attempt (surroundings : Surroundings) (place : String) : Attempt :=
  let path := resolve surroundings.workingDirectory place
  match surroundings.file? path with
  | none => .missing
  | some raw =>
    if otherFormat path then .broken
    else match (RawText.text? raw).bind Toml.read with
      | some layer => .loaded layer
      | none => .broken

/-- The first layer that loads. Without one, a broken file is a fault and no file is none. -/
def choose : List Attempt → Option (Option Json)
  | [] => some none
  | .loaded layer :: _ => some (some layer)
  | .missing :: rest => choose rest
  | .broken :: rest =>
    match choose rest with
    | some (some layer) => some (some layer)
    | _ => none

def layer? (surroundings : Surroundings) : Option (Option Json) :=
  choose ((places surroundings).map (attempt surroundings))

end File

end DependencyLinks.Settings
