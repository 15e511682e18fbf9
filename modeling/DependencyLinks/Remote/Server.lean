/-!
What requests are and who answers them. A server answers a request and goes on as a server, which
may depend on the request; sooner or later it is down for good. Any finite course of answers is the
course of some server.
-/

namespace DependencyLinks.Remote

/-- A request that reads. -/
structure Request where
  scheme : String
  authority : String
  target : String
  authorization : Option String := none
deriving DecidableEq, Repr

structure Response where
  status : Nat := 200
  headers : List (String × String) := []
  body : String := ""
deriving DecidableEq, Repr

/-- The first value of a header, whose name is not case-sensitive. -/
def header? (headers : List (String × String)) (name : String) : Option String :=
  (headers.find? fun header => header.1.toLower == name.toLower).map (·.2)

def Response.header? (response : Response) (name : String) : Option String :=
  Remote.header? response.headers name

/-- A request is answered, or the connection fails. -/
inductive Reply where
  | answered (response : Response)
  | lost
deriving DecidableEq, Repr

inductive Server where
  | down
  | up (reply : Request → Reply) (next : Request → Server)

namespace Server

/-- Which of some requests, sent one after another, reach the server. -/
def received : Server → List Request → List Request
  | .down, _ => []
  | .up _ _, [] => []
  | .up _ next, request :: requests => request :: received (next request) requests

/-- Gives these replies, whatever is asked, and is down then. -/
def replaying : List Reply → Server
  | [] => .down
  | reply :: replies => .up (fun _ => reply) fun _ => replaying replies

end Server

end DependencyLinks.Remote
