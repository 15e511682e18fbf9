import DependencyLinks.Failure
import DependencyLinks.Text.Blank

/-! The parts that name a pull request, and the token that opens it. -/

namespace DependencyLinks

/-- A text without the white space around it, if anything is left. -/
def nonblank? (s : String) : Option String :=
  let kept := Text.trim s
  if kept.isEmpty then none else some kept

structure Owner where
  text : String
deriving DecidableEq, Repr

structure RepositoryName where
  text : String
deriving DecidableEq, Repr

structure AccessToken where
  text : String
deriving DecidableEq, Repr

structure PullRequestNumber where
  value : Nat
  positive : 0 < value
deriving DecidableEq, Repr

def Owner.make (s : String) : Except Failure Owner :=
  match nonblank? s with
  | some text => .ok ⟨text⟩
  | none => .error .blankRepository

def RepositoryName.make (s : String) : Except Failure RepositoryName :=
  match nonblank? s with
  | some text => .ok ⟨text⟩
  | none => .error .blankRepository

def AccessToken.make (s : String) : Except Failure AccessToken :=
  match nonblank? s with
  | some text => .ok ⟨text⟩
  | none => .error .blankToken

def PullRequestNumber.make (n : Nat) : Except Failure PullRequestNumber :=
  if positive : 0 < n then .ok ⟨n, positive⟩ else .error .zeroNumber

end DependencyLinks
