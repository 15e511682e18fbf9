import DependencyLinks.Remote.Client
import DependencyLinks.Remote.Decode
import DependencyLinks.Remote.Fault
import DependencyLinks.Remote.Link

/-!
Visits to a server. A pull request takes one request. A thread of comments is read page by page:
each page names the next one, and the first that fails or names none is the last.
-/

namespace DependencyLinks.Remote

/-- What comes of some requests, with the server as they leave it. -/
structure Visit (α : Type) where
  result : Except Fault α
  requests : List Request
  server : Server

/-- The response, if it says that the request succeeded. -/
def Reply.success : Reply → Except Fault Response
  | .lost => .error .unreachable
  | .answered response =>
    if Status.success response.status then .ok response
    else match errorMessage? response.body with
      | some message => .error (.rejected response.status message)
      | none => .error .errorBody

def Response.metadata (response : Response) : Except Fault Metadata :=
  match Metadata.read response.body with
  | some metadata => .ok metadata
  | none => .error .body

/-- A page of comments and the address of the next. -/
structure Page where
  comments : List Comment
  next : Option Uri
deriving DecidableEq, Repr

/-- The address of the next page, which a response need not give. -/
def Response.next (response : Response) : Except Uri.Fault (Option Uri) :=
  match response.header? "Link" with
  | some header => Link.next? header
  | none => .ok none

def Response.page (response : Response) : Except Fault Page :=
  match response.next, comments? response.body with
  | .error _, _ => .error .links
  | .ok _, none => .error .body
  | .ok next, some comments => .ok { comments, next }

def Reply.metadata (reply : Reply) : Except Fault Metadata := do
  (← reply.success).metadata

def Reply.page (reply : Reply) : Except Fault Page := do
  (← reply.success).page

namespace Client

/-- Sends one request and reads its reply. -/
def ask (client : Client) (read : Reply → Except Fault α) (uri : Uri) : Server → Visit α
  | .down => ⟨.error .unreachable, [client.request uri], .down⟩
  | .up reply next =>
    let request := client.request uri
    ⟨read (reply request), [request], next request⟩

/-- The pages of a thread from an address on. -/
def pages (client : Client) (uri : Uri) : Server → Visit (List (List Comment))
  | .down => ⟨.error .unreachable, [client.request uri], .down⟩
  | .up reply next =>
    let request := client.request uri
    match (reply request).page with
    | .error fault => ⟨.error fault, [request], next request⟩
    | .ok ⟨comments, none⟩ => ⟨.ok [comments], [request], next request⟩
    | .ok ⟨comments, some link⟩ =>
      let later := pages client link (next request)
      ⟨later.result.map (comments :: ·), request :: later.requests, later.server⟩

/-- Visits an address given as a path. One that is no address sends nothing. -/
def visit (client : Client) (path : String) (go : Client → Uri → Server → Visit α)
    (server : Server) : Visit α :=
  match Uri.read path with
  | .ok uri => go client uri server
  | .error _ => ⟨.error .address, [], server⟩

def pullRequest (client : Client) (locator : Locator) (server : Server) : Visit Metadata :=
  client.visit locator.pullRequestPath (fun client => client.ask Reply.metadata) server

def thread (client : Client) (locator : Locator) (server : Server) :
    Visit (List (List Comment)) :=
  client.visit locator.commentsPath Client.pages server

end Client

end DependencyLinks.Remote
