/-! A pull request and the comments of its thread. -/

namespace DependencyLinks

structure Metadata where
  number : Nat
  title : Option String := none
  state : Option String := none
  page : Option String := none
  author : Option String := none
deriving DecidableEq, Repr

structure Comment where
  id : Nat
  body : Option String := none
  author : Option String := none
deriving DecidableEq, Repr

/-- A pull request with its comments in thread order. -/
structure Details where
  metadata : Metadata
  comments : List Comment
deriving DecidableEq, Repr

/-- The bodies that are there, in thread order. -/
def Comment.bodies (comments : List Comment) : List String :=
  comments.filterMap (·.body)

def Details.bodies (details : Details) : List String :=
  Comment.bodies details.comments

end DependencyLinks
