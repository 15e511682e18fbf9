/-! The fields of the settings, and the names they go by. -/

namespace DependencyLinks

inductive Field where
  | token
  | owner
  | repository
  | apiBase
  | marker
  | linkStart
deriving DecidableEq, Repr

namespace Field

def all : List Field := [token, owner, repository, apiBase, marker, linkStart]

theorem mem_all (field : Field) : field ∈ all := by
  cases field <;> decide

/-- The key of a field in files, and behind the common start of variable names. -/
def key : Field → String
  | token => "token"
  | owner => "owner"
  | repository => "repo"
  | apiBase => "api_base"
  | marker => "marker"
  | linkStart => "url_prefix"

/-- The long option that sets a field. -/
def long : Field → String
  | token => "--token"
  | owner => "--owner"
  | repository => "--repo"
  | apiBase => "--api-base"
  | marker => "--marker"
  | linkStart => "--url-prefix"

/-- The letter of the short option, for the fields that have one. -/
def letter? : Field → Option Char
  | token => some 't'
  | owner => some 'o'
  | repository => some 'r'
  | apiBase | marker | linkStart => none

def short? (field : Field) : Option String :=
  field.letter?.map fun letter => String.ofList ['-', letter]

/-- The field that an option sets, in either spelling. -/
def ofOption? (name : String) : Option Field :=
  all.find? fun field => field.long == name || field.short? == some name

def ofLong? (name : String) : Option Field :=
  all.find? fun field => field.long == name

def ofLetter? (letter : Char) : Option Field :=
  all.find? fun field => field.letter? == some letter

end Field

end DependencyLinks
