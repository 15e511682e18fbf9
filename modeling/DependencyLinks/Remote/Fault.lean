import DependencyLinks.Failure
import DependencyLinks.Remote.Status

/-! Why a remote operation fails, and which failure it is reported as. -/

namespace DependencyLinks.Remote

inductive Operation where
  | pullRequest
  | issueComments
deriving DecidableEq, Repr

def Operation.text : Operation → String
  | pullRequest => "pull request"
  | issueComments => "issue comments"

inductive Fault where
  | address
  | unreachable
  | rejected (status : Nat) (message : String)
  | errorBody
  | body
  | links
deriving DecidableEq, Repr

namespace Fault

/-- A rejection of the token is about access, a lost connection about the network, and all else
about the API. -/
def failure (operation : Operation) : Fault → Failure
  | rejected status message =>
    if Status.refused status then
      .authentication (operation.text ++ " failed: GitHub returned " ++ Status.text status ++ " " ++
        message)
    else
      .api (operation.text ++ " failed with status " ++ Status.text status ++ ": " ++ message)
  | unreachable => .network (operation.text ++ " failed: connection failed")
  | address => .api (operation.text ++ " failed: invalid request address")
  | errorBody => .api (operation.text ++ " failed: unreadable error response")
  | body => .api (operation.text ++ " failed: unreadable response")
  | links => .api (operation.text ++ " failed: invalid page link")

/-- All faults but a lost connection and a rejection are about the API, with a detail of their
own. -/
theorem exists_detail (operation : Operation) (fault : Fault)
    (own : fault = address ∨ fault = errorBody ∨ fault = body ∨ fault = links) :
    ∃ detail, fault.failure operation = .api (operation.text ++ " failed:" ++ detail) := by
  rcases own with rfl | rfl | rfl | rfl
  · exact ⟨" invalid request address", by cases operation <;> rfl⟩
  · exact ⟨" unreadable error response", by cases operation <;> rfl⟩
  · exact ⟨" unreadable response", by cases operation <;> rfl⟩
  · exact ⟨" invalid page link", by cases operation <;> rfl⟩

end Fault

end DependencyLinks.Remote
