import DependencyLinks.Settings.Field
import DependencyLinks.Locator
import DependencyLinks.Pattern
import DependencyLinks.Text.Cut
import DependencyLinks.Text.Utf8

/-! Settings of a scan. A field that is absent stands for its default. -/

namespace DependencyLinks

structure Settings where
  token : Option String := none
  owner : Option String := none
  repository : Option String := none
  apiBase : Option String := none
  marker : Option String := none
  linkStart : Option String := none
deriving DecidableEq, Repr

/-- Environment variables by name. -/
abbrev Variables := List (String × RawText)

/-- Reads variables as the system lists them: a name, an equals sign, a value, and a zero byte
between one variable and the next. -/
def Variables.ofBlock (block : RawText) : Variables :=
  (Text.cutAt (· == 0x00) block).filterMap fun entry =>
    match Text.cutOnce 0x3D entry with
    | (name, some value) => (RawText.text? name).map (·, value)
    | (_, none) => none

namespace Settings

def get (settings : Settings) : Field → Option String
  | .token => settings.token
  | .owner => settings.owner
  | .repository => settings.repository
  | .apiBase => settings.apiBase
  | .marker => settings.marker
  | .linkStart => settings.linkStart

def ofFields (value : Field → Option String) : Settings where
  token := value .token
  owner := value .owner
  repository := value .repository
  apiBase := value .apiBase
  marker := value .marker
  linkStart := value .linkStart

@[simp] theorem get_ofFields (value : Field → Option String) (field : Field) :
    (ofFields value).get field = value field := by
  cases field <;> rfl

def ownerText (settings : Settings) : String :=
  settings.owner.getD "GoogleCloudPlatform"

def repositoryText (settings : Settings) : String :=
  settings.repository.getD "magic-modules"

def apiBaseText (settings : Settings) : String :=
  settings.apiBase.getD "https://api.github.com"

def markerText (settings : Settings) : String :=
  settings.marker.getD Pattern.defaultMarker

def linkStartText (settings : Settings) : String :=
  settings.linkStart.getD Pattern.defaultLinkStart

def locator (settings : Settings) (number : Nat) : Except Failure Locator :=
  Locator.ofParts settings.apiBaseText settings.ownerText settings.repositoryText number

def pattern (settings : Settings) : Except Failure Pattern :=
  Pattern.make settings.markerText settings.linkStartText

/-- The variables that hold a token where the settings have none. -/
def tokenVariables : List String := ["GH_TOKEN", "GITHUB_TOKEN"]

/-- A variable's text. One that is no text counts as unset. -/
def textOf? (environment : Variables) (name : String) : Option String :=
  (environment.lookup name).bind RawText.text?

/-- The texts that may be the token, in the order they are tried. -/
def tokenCandidates (settings : Settings) (environment : Variables) : List String :=
  settings.token.toList ++ tokenVariables.filterMap (textOf? environment)

/-- The first candidate that is not blank. -/
def resolveToken (settings : Settings) (environment : Variables) : Option AccessToken :=
  (settings.tokenCandidates environment).findSome? fun text => (AccessToken.make text).toOption

end Settings

end DependencyLinks
