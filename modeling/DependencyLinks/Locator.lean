import DependencyLinks.Identity
import DependencyLinks.Url.Read

/-! Where a pull request is found: the API, the repository and the number. -/

namespace DependencyLinks

structure Locator where
  apiBase : Url
  owner : Owner
  repository : RepositoryName
  number : PullRequestNumber
deriving DecidableEq, Repr

namespace Locator

/-- The API base has to be a URL that paths can be put behind. -/
def make (apiBase : String) (owner : Owner) (repository : RepositoryName)
    (number : PullRequestNumber) : Except Failure Locator :=
  match Url.read apiBase with
  | .error fault => .error (.invalidUrl fault.message)
  | .ok url =>
    if url.hasPath then .ok { apiBase := url, owner, repository, number }
    else .error (.invalidUrl (apiBase ++ " cannot be used as a base URL"))

/-- Checks owner, repository, number and API base, in this order. -/
def ofParts (apiBase owner repository : String) (number : Nat) : Except Failure Locator := do
  let owner ← Owner.make owner
  let repository ← RepositoryName.make repository
  let number ← PullRequestNumber.make number
  make apiBase owner repository number

/-- The path of the repository. -/
def repositoryPath (locator : Locator) : String :=
  "/repos/" ++ locator.owner.text ++ "/" ++ locator.repository.text

def pullRequestPath (locator : Locator) : String :=
  locator.repositoryPath ++ "/pulls/" ++ toString locator.number.value

def commentsPath (locator : Locator) : String :=
  locator.repositoryPath ++ "/issues/" ++ toString locator.number.value ++ "/comments"

theorem head?_pullRequestPath (locator : Locator) :
    locator.pullRequestPath.toList.head? = some '/' := by
  simp [pullRequestPath, repositoryPath]

theorem head?_commentsPath (locator : Locator) :
    locator.commentsPath.toList.head? = some '/' := by
  simp [commentsPath, repositoryPath]

end Locator

end DependencyLinks
