import DependencyLinks.Gateway

/-! Sessions: several readings, one after another, through one gateway that answers from a
script. -/

namespace DependencyLinks

inductive Call where
  | pullRequest (owner : Owner) (repository : RepositoryName) (number : PullRequestNumber)
  | comments (owner : Owner) (repository : RepositoryName) (number : PullRequestNumber)
deriving DecidableEq, Repr

/-- The answers that are left and the calls that were made, each in order. -/
structure Script where
  pullRequests : List (Except Failure Metadata)
  comments : List (Except Failure (List Comment))
  calls : List Call := []

namespace Script

def exhausted : Failure := .api "script exhausted"

/-- Takes the next answer of each kind. A script without one is exhausted. -/
def gateway : Gateway Script where
  pullRequest locator := fun script => {
    result := script.pullRequests.headD (.error exhausted)
    events := []
    state := { script with
      pullRequests := script.pullRequests.tail
      calls := script.calls ++ [.pullRequest locator.owner locator.repository locator.number] } }
  comments locator := fun script => {
    result := script.comments.headD (.error exhausted)
    events := []
    state := { script with
      comments := script.comments.tail
      calls := script.calls ++ [.comments locator.owner locator.repository locator.number] } }

/-- The calls made since an earlier state of the script. -/
def callsSince (script earlier : Script) : List Call :=
  script.calls.drop earlier.calls.length

end Script

namespace Session

inductive Aim where
  | load
  | extract
deriving DecidableEq, Repr

structure Step where
  aim : Aim
  apiBase : String
  owner : String
  repository : String
  number : Nat
deriving DecidableEq, Repr

def Step.locator (step : Step) : Except Failure Locator :=
  Locator.ofParts step.apiBase step.owner step.repository step.number

inductive Answer where
  | details (details : Details)
  | links (links : List String)
deriving DecidableEq, Repr

/-- A step without a locator reaches no gateway. -/
def Step.activity (gateway : Gateway σ) (pattern : Pattern) (step : Step) : Activity σ Answer := do
  let locator ← Activity.ofExcept step.locator
  match step.aim with
  | .load => return .details (← gateway.load locator)
  | .extract => return .links (← gateway.links pattern locator)

/-- Takes the steps one after another. A failed step does not end the session. -/
def run (gateway : Gateway σ) (pattern : Pattern) : List Step → σ → List (Outcome σ Answer)
  | [], _ => []
  | step :: steps, state =>
    let outcome := (step.activity gateway pattern).run state
    outcome :: run gateway pattern steps outcome.state

end Session

end DependencyLinks
