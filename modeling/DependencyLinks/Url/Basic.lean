import DependencyLinks.Url.Host
import DependencyLinks.Url.Path

/-! Absolute URLs and how they are written. -/

namespace DependencyLinks

namespace Url

/-- Who is asked on which host. A file URL may have no host. -/
structure Authority where
  username : String := ""
  password : String := ""
  host : Option Host
  port : Option Nat := none
deriving DecidableEq, Repr

/-- What the scheme is followed by: text of no further structure, or a path below an authority or
below none. -/
inductive Place where
  | plain (text : String)
  | path (authority : Option Authority) (segments : List String)
deriving DecidableEq, Repr

end Url

structure Url where
  scheme : String
  place : Url.Place
  query : Option String := none
  fragment : Option String := none
deriving DecidableEq, Repr

namespace Url

def Authority.text (authority : Authority) : List Char :=
  let user := authority.username.toList ++
    (if authority.password = "" then [] else ':' :: authority.password.toList)
  (if user.isEmpty then [] else user ++ ['@']) ++
    (authority.host.map Host.text).getD [] ++
    (authority.port.map fun port => ':' :: Nat.toDigits 10 port).getD []

def segmentsText (segments : List String) : List Char :=
  segments.flatMap fun segment => '/' :: segment.toList

/-- A path below no authority that would start with two slashes has a dot put in front. -/
def Place.text : Place → List Char
  | plain text => text.toList
  | path (some authority) segments => '/' :: '/' :: authority.text ++ segmentsText segments
  | path none segments =>
    let written := segmentsText segments
    if ['/', '/'].isPrefixOf written then '/' :: '.' :: written else written

def text (url : Url) : String :=
  String.ofList (url.scheme.toList ++ ':' :: url.place.text ++
    (url.query.map fun query => '?' :: query.toList).getD [] ++
    (url.fragment.map fun fragment => '#' :: fragment.toList).getD [])

/-- A path can be put behind the place. -/
def hasPath (url : Url) : Bool :=
  match url.place with
  | .plain _ => false
  | .path _ _ => true

end Url

end DependencyLinks
