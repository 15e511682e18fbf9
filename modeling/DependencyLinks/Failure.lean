/-! What can go wrong between the command line and the printed list, and how it is worded. -/

namespace DependencyLinks

inductive Failure where
  | usage (message : String)
  | zeroNumber
  | blankRepository
  | invalidUrl (message : String)
  | blankToken
  | invalidPattern (message : String)
  | authentication (message : String)
  | api (message : String)
  | network (message : String)
  | output (message : String)
  | configuration (message : String)
deriving DecidableEq, Repr

namespace Failure

/-- The words that open the text of a failure. No two kinds of failure share theirs. -/
def heading : Failure → String
  | usage _ => "usage: "
  | zeroNumber => "pull request number must be a positive integer"
  | blankRepository => "repository owner and name must not be empty"
  | invalidUrl _ => "GitHub API URL is invalid: "
  | blankToken => "personal access token is required"
  | invalidPattern _ => "dependency pattern is invalid: "
  | authentication _ => "GitHub rejected the token: "
  | api _ => "GitHub API error: "
  | network _ => "network error talking to GitHub: "
  | output _ => "I/O error: "
  | configuration _ => "configuration error: "

/-- What a failure adds to its heading. -/
def detail : Failure → String
  | usage message | invalidUrl message | invalidPattern message | authentication message
  | api message | network message | output message | configuration message => message
  | zeroNumber | blankRepository | blankToken => ""

def text (failure : Failure) : String :=
  failure.heading ++ failure.detail

/-- The command line itself was at fault. -/
def isUsage : Failure → Bool
  | usage _ => true
  | _ => false

end Failure

@[simp] theorem mapError_ok {ε δ α : Type} (f : ε → δ) (value : α) :
    Except.mapError f (.ok value) = .ok value := rfl

@[simp] theorem mapError_error {ε δ α : Type} (f : ε → δ) (fault : ε) :
    Except.mapError f (.error fault : Except ε α) = .error (f fault) := rfl

theorem mapError_eq_error_iff {ε δ α : Type} {f : ε → δ} {result : Except ε α} {failure : δ} :
    result.mapError f = .error failure ↔ ∃ fault, result = .error fault ∧ f fault = failure := by
  cases result with
  | ok value => simp
  | error fault => simp

end DependencyLinks
