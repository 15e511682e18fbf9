import DependencyLinks.Gateway
import DependencyLinks.Remote.Visit

/-! The gateway that asks a server. -/

namespace DependencyLinks.Remote

/-- A server, and the requests that were sent on the way to it. -/
structure Connection where
  server : Server
  requests : List Request := []

/-- Takes a visit as part of an operation. -/
def Visit.activity (operation : Operation) (visit : Server → Visit α) :
    Activity Connection α := fun connection =>
  let visited := visit connection.server
  { result := visited.result.mapError (Fault.failure operation)
    events := []
    state := {
      server := visited.server
      requests := connection.requests ++ visited.requests } }

/-- The comments of a thread are those of its pages, page after page. -/
def Client.gateway (client : Client) : Gateway Connection where
  pullRequest locator := Visit.activity .pullRequest (client.pullRequest locator)
  comments locator := do
    let pages ← Visit.activity .issueComments (client.thread locator)
    Activity.report (.threadRead pages.length pages.flatten.length)
    return pages.flatten

end DependencyLinks.Remote
