import DependencyLinks.Proofs.Failure
import DependencyLinks.Proofs.Remote.Thread

/-! Where an operation breaks off, and what is reported of it. Only a status and the message of an
error body decide whether a token was rejected, on whichever page they come. -/

namespace DependencyLinks.Remote

def Operation.path (locator : Locator) : Operation → String
  | pullRequest => locator.pullRequestPath
  | issueComments => locator.commentsPath

def Response.Succeeded (response : Response) : Prop :=
  200 ≤ response.status ∧ response.status ≤ 299

/-- The operation can read what came back: a pull request, or a page of comments whose links are
addresses. -/
def Operation.Reads : Operation → Response → Prop
  | pullRequest, response => ∃ metadata, Metadata.read response.body = some metadata
  | issueComments, response =>
    (∃ comments, comments? response.body = some comments) ∧ ∃ next, response.next = .ok next

/-- The reply is of use to the operation. -/
def Operation.Takes (operation : Operation) (reply : Reply) : Prop :=
  ∃ response, reply = .answered response ∧ response.Succeeded ∧ operation.Reads response

/-- What is reported of an operation that breaks off at a reply, or before any request is sent. -/
inductive Reported (operation : Operation) : Option Reply → Failure → Prop where
  | unsent (detail : String) :
      Reported operation none (.api (operation.text ++ " failed:" ++ detail))
  | lost (detail : String) :
      Reported operation (some .lost) (.network (operation.text ++ " failed:" ++ detail))
  | refused {response : Response} {told : String}
      (status : response.status = 401 ∨ response.status = 403)
      (message : errorMessage? response.body = some told) :
      Reported operation (some (.answered response))
        (.authentication (operation.text ++ " failed: GitHub returned " ++
          Status.text response.status ++ " " ++ told))
  | rejected {response : Response} {told : String} (failed : ¬ response.Succeeded)
      (status : ¬ (response.status = 401 ∨ response.status = 403))
      (message : errorMessage? response.body = some told) :
      Reported operation (some (.answered response))
        (.api (operation.text ++ " failed with status " ++ Status.text response.status ++ ": " ++
          told))
  | unexplained {response : Response} (failed : ¬ response.Succeeded)
      (message : errorMessage? response.body = none) (detail : String) :
      Reported operation (some (.answered response))
        (.api (operation.text ++ " failed:" ++ detail))
  | unread {response : Response} (succeeded : response.Succeeded)
      (garbled : ¬ operation.Reads response) (detail : String) :
      Reported operation (some (.answered response))
        (.api (operation.text ++ " failed:" ++ detail))

theorem Status.success_iff {response : Response} :
    Status.success response.status = true ↔ response.Succeeded := by
  simp [Status.success, Response.Succeeded]

theorem Status.refused_iff {status : Nat} :
    Status.refused status = true ↔ status = 401 ∨ status = 403 := by
  simp [Status.refused]

variable {operation : Operation} {reply : Reply} {response : Response} {fault : Fault}

theorem Fault.failure_unreachable (operation : Operation) :
    unreachable.failure operation =
      .network (operation.text ++ " failed:" ++ " connection failed") := by
  cases operation <;> rfl

theorem Reply.success_answered (response : Response) :
    (answered response).success =
      if Status.success response.status then .ok response
      else match errorMessage? response.body with
        | some message => .error (.rejected response.status message)
        | none => .error .errorBody := rfl

theorem Reply.success_eq_ok_iff :
    reply.success = .ok response ↔ reply = .answered response ∧ response.Succeeded := by
  constructor
  · intro read
    obtain rfl := Reply.eq_answered_of_success read
    rw [success_answered] at read
    split at read
    next succeeded => exact ⟨rfl, Status.success_iff.mp succeeded⟩
    next => split at read <;> cases read
  · rintro ⟨rfl, succeeded⟩
    rw [success_answered, if_pos (Status.success_iff.mpr succeeded)]

/-- A reply that does not succeed is reported by its status and its message. -/
theorem reported_of_success (failed : reply.success = .error fault) :
    Reported operation (some reply) (fault.failure operation) := by
  cases reply with
  | lost =>
    cases failed
    rw [Fault.failure_unreachable]
    exact .lost _
  | answered response =>
    rw [Reply.success_answered] at failed
    split at failed
    next => cases failed
    next unsuccessful =>
    rw [Status.success_iff] at unsuccessful
    split at failed
    next told message =>
      cases failed
      rw [Fault.failure]
      split
      next refused => exact .refused (Status.refused_iff.mp refused) message
      next other => exact .rejected unsuccessful (mt Status.refused_iff.mpr other) message
    next message =>
      cases failed
      obtain ⟨detail, same⟩ := Fault.exists_detail operation .errorBody (.inr (.inl rfl))
      rw [same]
      exact .unexplained unsuccessful message detail

section

variable {α : Type} {read : Response → Except Fault α}

theorem takes_iff (reads : ∀ response, (∃ value, read response = .ok value) ↔
      operation.Reads response) :
    (∃ value, reply.success >>= read = .ok value) ↔ operation.Takes reply := by
  constructor
  · rintro ⟨value, good⟩
    cases success : reply.success with
    | error fault => simp [success, bind, Except.bind] at good
    | ok response =>
      obtain ⟨same, succeeded⟩ := Reply.success_eq_ok_iff.mp success
      rw [success] at good
      exact ⟨response, same, succeeded, (reads response).mp ⟨value, good⟩⟩
  · rintro ⟨response, same, succeeded, good⟩
    obtain ⟨value, found⟩ := (reads response).mpr good
    rw [Reply.success_eq_ok_iff.mpr ⟨same, succeeded⟩]
    exact ⟨value, found⟩

/-- A reply that is of no use is reported by its status and its message, or as one that could not be
read. -/
theorem reported_of_read (reads : ∀ response, (∃ value, read response = .ok value) ↔
      operation.Reads response)
    (own : ∀ response fault, read response = .error fault → fault = .body ∨ fault = .links)
    (failed : reply.success >>= read = .error fault) :
    Reported operation (some reply) (fault.failure operation) := by
  cases success : reply.success with
  | error fault' =>
    rw [success] at failed
    exact Except.error.inj failed ▸ reported_of_success success
  | ok response =>
    obtain ⟨rfl, succeeded⟩ := Reply.success_eq_ok_iff.mp success
    have failed : read response = .error fault := by rwa [success] at failed
    have garbled : ¬ operation.Reads response := by
      rw [← reads response, failed]
      nofun
    obtain ⟨detail, same⟩ :=
      Fault.exists_detail operation fault (.inr (.inr (own response fault failed)))
    rw [same]
    exact .unread succeeded garbled detail

end

theorem Response.exists_metadata_iff (response : Response) :
    (∃ metadata, response.metadata = .ok metadata) ↔ Operation.pullRequest.Reads response := by
  unfold Response.metadata Operation.Reads
  split <;> simp [*]

theorem Response.eq_body_of_metadata {response : Response} {fault : Fault}
    (failed : response.metadata = .error fault) : fault = .body := by
  unfold Response.metadata at failed
  split at failed
  · cases failed
  · exact (Except.error.inj failed).symm

theorem Response.exists_page_iff (response : Response) :
    (∃ page, response.page = .ok page) ↔ Operation.issueComments.Reads response := by
  unfold Response.page Operation.Reads
  split <;> simp [*]

theorem Response.eq_of_page {response : Response} {fault : Fault}
    (failed : response.page = .error fault) : fault = .body ∨ fault = .links := by
  unfold Response.page at failed
  split at failed
  · exact .inr (Except.error.inj failed).symm
  · exact .inl (Except.error.inj failed).symm
  · cases failed

theorem Reply.exists_metadata_iff (reply : Reply) :
    (∃ metadata, reply.metadata = .ok metadata) ↔ Operation.pullRequest.Takes reply :=
  takes_iff Response.exists_metadata_iff

theorem Reply.exists_page_iff (reply : Reply) :
    (∃ page, reply.page = .ok page) ↔ Operation.issueComments.Takes reply :=
  takes_iff Response.exists_page_iff

theorem reported_of_metadata (failed : reply.metadata = .error fault) :
    Reported .pullRequest (some reply) (fault.failure .pullRequest) :=
  reported_of_read Response.exists_metadata_iff
    (fun _ _ failed => .inl (Response.eq_body_of_metadata failed)) failed

theorem reported_of_page (failed : reply.page = .error fault) :
    Reported .issueComments (some reply) (fault.failure .issueComments) :=
  reported_of_read Response.exists_page_iff (fun _ _ => Response.eq_of_page) failed

namespace Client

variable {client : Client} {locator : Locator}

/-- What an operation is reported to have failed with, if it fails. -/
def failure? (client : Client) (locator : Locator) (connection : Connection) :
    Operation → Option Failure
  | .pullRequest =>
    DependencyLinks.failure? ((client.gateway.pullRequest locator).run connection).result
  | .issueComments =>
    DependencyLinks.failure? ((client.gateway.comments locator).run connection).result

/-- An operation sends nothing if its path is no address, and else breaks off at the first reply that
is of no use to it. For comments that is the reply behind some pages, each of which named the
next. -/
inductive BreaksAt (client : Client) (locator : Locator) (server : Server) :
    Operation → Option Reply → Prop where
  | unsent {operation : Operation} {fault : Uri.Fault}
      (refused : Uri.read (operation.path locator) = .error fault) :
      BreaksAt client locator server operation none
  | answer {uri : Uri} (address : Uri.read (Operation.pullRequest.path locator) = .ok uri)
      (useless : ¬ Operation.pullRequest.Takes (server.reply (client.request uri))) :
      BreaksAt client locator server .pullRequest (some (server.reply (client.request uri)))
  | page {uri : Uri} {course : Course} {reply : Reply}
      (address : Uri.read (Operation.issueComments.path locator) = .ok uri)
      (follows : course.Follows client uri server)
      (stops : (server.replies (course.requests client uri)).getLast? = some reply)
      (useless : ¬ Operation.issueComments.Takes reply) :
      BreaksAt client locator server .issueComments (some reply)

theorem getLast?_replies {uri : Uri} {course : Course} {server : Server}
    (follows : course.Follows client uri server) :
    ∃ reply, (server.replies (course.requests client uri)).getLast? = some reply ∧
      reply.page = course.last := by
  have last := congrArg List.getLast? follows.read
  rw [List.getLast?_map, List.getLast?_append, List.getLast?_singleton, Option.some_or,
    Option.map_eq_some_iff] at last
  exact last

variable {connection : Connection} {place : Option Reply} {failure : Failure}

/-- An operation that breaks off fails, as its place tells. -/
theorem reported_of_breaksAt (breaks : client.BreaksAt locator connection.server operation place) :
    ∃ failure, client.failure? locator connection operation = some failure ∧
      Reported operation place failure := by
  cases breaks with
  | unsent refused =>
    obtain ⟨detail, same⟩ := Fault.exists_detail operation .address (.inl rfl)
    refine ⟨Fault.address.failure operation, ?_, same ▸ .unsent detail⟩
    cases operation with
    | pullRequest =>
      rw [failure?, run_pullRequest_of_no_address client refused, failure?_error]
    | issueComments =>
      rw [failure?, (run_comments_of_no_address refused connection).1, failure?_error]
  | @answer uri address useless =>
    cases read : (connection.server.reply (client.request uri)).metadata with
    | ok metadata => exact absurd ((Reply.exists_metadata_iff _).mp ⟨metadata, read⟩) useless
    | error fault =>
      refine ⟨fault.failure .pullRequest, ?_, reported_of_metadata read⟩
      rw [failure?, run_pullRequest_of_address client address, read, mapError_error,
        failure?_error]
  | @page uri course reply address follows stops useless =>
    obtain ⟨reply', stops', read⟩ := getLast?_replies follows
    obtain rfl := Option.some.inj (stops.symm.trans stops')
    cases last : course.last with
    | ok page => exact absurd ((Reply.exists_page_iff reply).mp ⟨page, read.trans last⟩) useless
    | error fault =>
      refine ⟨fault.failure .issueComments, ?_, reported_of_page (read.trans last)⟩
      rw [failure?, (run_comments_of_follows address follows).1, Course.pages, last]
      rfl

/-- An operation that fails breaks off somewhere. -/
theorem exists_breaksAt (failed : client.failure? locator connection operation = some failure) :
    ∃ place, client.BreaksAt locator connection.server operation place := by
  cases address : Uri.read (operation.path locator) with
  | error fault => exact ⟨none, .unsent address⟩
  | ok uri =>
    cases operation with
    | pullRequest =>
      refine ⟨_, .answer address ?_⟩
      intro takes
      obtain ⟨metadata, read⟩ := (Reply.exists_metadata_iff _).mpr takes
      rw [failure?, run_pullRequest_of_address client address, read] at failed
      cases failed
    | issueComments =>
      obtain ⟨course, follows⟩ := Course.exists_follows client uri connection.server
      obtain ⟨reply, stops, read⟩ := getLast?_replies follows
      refine ⟨_, .page address follows stops ?_⟩
      intro takes
      obtain ⟨page, good⟩ := (Reply.exists_page_iff reply).mpr takes
      rw [failure?, (run_comments_of_follows address follows).1, Course.pages, ← read, good]
        at failed
      cases failed

/-- What an operation fails with is told by the place where it breaks off. A reply that rejects it
with a message is about access for two statuses and about the API for all others, and the message
is passed on in full. A connection that is lost is about the network, and all else about the API.
So access is at fault if and only if a reply says so, whatever page it stands for. -/
theorem failure_told_by_break (client : Client) (locator : Locator) (connection : Connection)
    (operation : Operation) :
    (∀ place, client.BreaksAt locator connection.server operation place →
      ∃ failure, client.failure? locator connection operation = some failure ∧
        Reported operation place failure) ∧
    (client.failure? locator connection operation = none ↔
      ∀ place, ¬ client.BreaksAt locator connection.server operation place) ∧
    ∀ message, client.failure? locator connection operation = some (.authentication message) ↔
      ∃ response told,
        client.BreaksAt locator connection.server operation (some (.answered response)) ∧
        (response.status = 401 ∨ response.status = 403) ∧
        errorMessage? response.body = some told ∧
        message = operation.text ++ " failed: GitHub returned " ++ Status.text response.status ++
          " " ++ told := by
  refine ⟨fun place => reported_of_breaksAt, ⟨?_, ?_⟩, fun message => ⟨?_, ?_⟩⟩
  · intro good place breaks
    obtain ⟨failure, failed, -⟩ := reported_of_breaksAt breaks
    rw [good] at failed
    cases failed
  · intro unbroken
    by_contra failed
    obtain ⟨failure, failed⟩ := Option.ne_none_iff_exists'.mp failed
    obtain ⟨place, breaks⟩ := exists_breaksAt failed
    exact unbroken place breaks
  · intro failed
    obtain ⟨place, breaks⟩ := exists_breaksAt failed
    obtain ⟨failure, failed', reported⟩ := reported_of_breaksAt breaks
    obtain rfl := Option.some.inj (failed.symm.trans failed')
    cases reported with
    | refused status told => exact ⟨_, _, breaks, status, told, rfl⟩
  · rintro ⟨response, told, breaks, status, stated, rfl⟩
    obtain ⟨failure, failed, reported⟩ := reported_of_breaksAt breaks
    cases reported with
    | refused _ stated' => rw [failed, Option.some.inj (stated.symm.trans stated')]
    | rejected _ other _ => exact absurd status other
    | unexplained _ silent => exact absurd (stated.symm.trans silent) nofun
    | unread succeeded =>
      have bounds : 200 ≤ response.status ∧ response.status ≤ 299 := succeeded
      omega

private def askingClient : Client where
  base := { scheme := some "http", authority := some "h", target := some "/" }
  token := some ⟨"t"⟩

private def askedLocator : Locator where
  apiBase := { scheme := "http", place := .path none [] }
  owner := ⟨"o"⟩
  repository := ⟨"r"⟩
  number := ⟨9, by decide⟩

/-- Serves one page and then forbids to go on. -/
private def forbidding (body : String) : Server :=
  .replaying [.answered { headers := [("Link", "</b>; rel=next")], body := "[\x7b\"id\":1\x7d]" },
    .answered { status := 403, body }]

private def forbiddenCourse (fault : Fault) : Course where
  links := [{ target := some "/b" }]
  passed := [⟨[{ id := 1 }], some { target := some "/b" }⟩]
  last := .error fault

private theorem breaksAt_forbidding (body : String) (fault : Fault)
    (read : ((forbidding body).replies ((forbiddenCourse fault).requests askingClient
        { target := some "/repos/o/r/issues/9/comments" })).map Reply.page =
      (forbiddenCourse fault).passed.map Except.ok ++ [.error fault]) :
    askingClient.BreaksAt askedLocator (forbidding body) .issueComments
      (some (.answered { status := 403, body })) := by
  have address : Uri.read (Operation.issueComments.path askedLocator) =
      .ok { target := some "/repos/o/r/issues/9/comments" } := by decide +kernel
  have follows : (forbiddenCourse fault).Follows askingClient
      { target := some "/repos/o/r/issues/9/comments" } (forbidding body) := ⟨read, rfl, nofun⟩
  refine .page address follows rfl ?_
  rintro ⟨response, ⟨⟩, succeeded, -⟩
  exact absurd (show 403 ≤ 299 from succeeded.2) (by decide)

private def refusal : String := "\x7b\"message\":\"no way\"\x7d"

/-- Behind a good page, the same status is about access with a message and about the API without
one. -/
theorem failure_told_by_break_laterPage :
    askingClient.BreaksAt askedLocator (forbidding refusal) .issueComments
        (some (.answered { status := 403, body := refusal })) ∧
      askingClient.failure? askedLocator { server := forbidding refusal } .issueComments =
        some (.authentication "issue comments failed: GitHub returned 403 Forbidden no way") ∧
      askingClient.BreaksAt askedLocator (forbidding "<html>") .issueComments
        (some (.answered { status := 403, body := "<html>" })) ∧
      ∃ detail, askingClient.failure? askedLocator { server := forbidding "<html>" }
          .issueComments = some (.api ("issue comments failed:" ++ detail)) := by
  have told := breaksAt_forbidding refusal (.rejected 403 "no way")
    (by decide +kernel)
  have untold := breaksAt_forbidding "<html>" .errorBody (by decide +kernel)
  obtain ⟨-, -, access⟩ := failure_told_by_break askingClient askedLocator
    { server := forbidding refusal } .issueComments
  obtain ⟨failure, failed, reported⟩ := (failure_told_by_break askingClient askedLocator
    { server := forbidding "<html>" } .issueComments).1 _ untold
  have silent : ∀ told, errorMessage? "<html>" ≠ some told := by
    have nothing : errorMessage? "<html>" = none := by decide +kernel
    simp [nothing]
  refine ⟨told, (access _).mpr ⟨_, "no way", told, .inr rfl, by decide +kernel, by decide +kernel⟩,
    untold, ?_⟩
  cases reported with
  | refused _ stated => exact absurd stated (silent _)
  | rejected _ _ stated => exact absurd stated (silent _)
  | unexplained _ _ detail => exact ⟨detail, failed⟩
  | unread succeeded => exact absurd (show 403 ≤ 299 from succeeded.2) (by decide)

end Client

end DependencyLinks.Remote
