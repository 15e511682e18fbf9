import DependencyLinks.Proofs.Scan.Checks

/-! The requests of a scan, by what their replies are good for. -/

namespace DependencyLinks

/-- Once the pull request is there, its comments decide whether the reading fails. -/
theorem Gateway.run_links_of_pullRequest_ok {σ : Type} {gateway : Gateway σ} {locator : Locator}
    {state : σ} {metadata : Metadata} (pattern : Pattern)
    (answered : ((gateway.pullRequest locator).run state).result = .ok metadata) :
    failure? ((gateway.links pattern locator).run state).result =
        failure? ((gateway.comments locator).run
          ((gateway.pullRequest locator).run state).state).result ∧
      ((gateway.links pattern locator).run state).state =
        ((gateway.comments locator).run ((gateway.pullRequest locator).run state).state).state := by
  cases read : ((gateway.comments locator).run
      ((gateway.pullRequest locator).run state).state).result with
  | error failure =>
    obtain ⟨stopped, left⟩ := run_links_of_comments_error pattern answered read
    exact ⟨congrArg failure? stopped, left⟩
  | ok comments =>
    obtain ⟨done, left⟩ := run_links_of_comments_ok pattern answered read
    exact ⟨congrArg failure? done, left⟩

namespace Remote

/-- What the replies to a scan are reported as where they are faults. The first one has to be the
pull request and all others pages of its comments. -/
def verdicts : List Reply → List (Option Failure)
  | [] => []
  | first :: others =>
    failure? (first.metadata.mapError (Fault.failure .pullRequest)) ::
      others.map fun reply => failure? (reply.page.mapError (Fault.failure .issueComments))

@[simp] theorem Server.length_replies (server : Server) (requests : List Request) :
    (server.replies requests).length = requests.length := by
  induction requests generalizing server with
  | nil => rfl
  | cons request requests ih => simp [replies, ih]

section

variable {client : Client} {locator : Locator} {server : Server} {uri : Uri}
variable {requests : List Request} {result : Except Failure (List String)}

/-- Only the last reply of a course may be a fault. -/
theorem Course.Follows.verdicts {course : Course} (follows : course.Follows client uri server) :
    (server.replies (course.requests client uri)).map
        (fun reply => failure? (reply.page.mapError (Fault.failure .issueComments))) =
      List.replicate course.passed.length none ++
        [failure? (course.last.mapError (Fault.failure .issueComments))] := by
  have judged := congrArg
    (List.map fun read => failure? (read.mapError (Fault.failure .issueComments))) follows.read
  simpa [Function.comp_def] using judged

theorem verdicts_single (server : Server) (request : Request) :
    verdicts (server.replies [request]) =
      List.replicate 0 none ++
        [failure? ((server.reply request).metadata.mapError (Fault.failure .pullRequest))] := rfl

/-- Where only the last verdict may be a failure, there is no other place to find one. -/
theorem eq_of_verdict {n place : Nat} {verdict : Option Failure} {failure : Failure}
    (found : (List.replicate n none ++ [verdict])[place]? = some (some failure)) :
    place = n ∧ verdict = some failure := by
  rw [List.getElem?_append, List.length_replicate] at found
  split at found
  · simp [List.getElem?_replicate] at found
  · rw [List.getElem?_singleton] at found
    split at found
    · exact ⟨by omega, Option.some.inj found⟩
    · cases found

/-- How a client asks for a pull request and its comments, and what comes of it. Either path may be
one that cannot be sent. -/
structure Dialogue (client : Client) (locator : Locator) (server : Server)
    (requests : List Request) (result : Except Failure (List String)) : Prop where
  /-- The pull request comes first. -/
  opening : Uri.Sendable locator.pullRequestPath →
    ∃ request, requests.head? = some request ∧
      client.Asks (.ofPath locator.pullRequestPath) request
  unopened : ¬ Uri.Sendable locator.pullRequestPath →
    requests = [] ∧ ∃ detail, result = .error (.api ("pull request failed:" ++ detail))
  /-- The comments of the same pull request come next. -/
  thread : ∀ request, requests[1]? = some request →
    client.Asks (.ofPath locator.commentsPath) request
  /-- They are asked for behind a reply that is the pull request. -/
  threaded : 1 < requests.length ↔
    Uri.Sendable locator.commentsPath ∧
      ∃ reply metadata, (server.replies requests).head? = some reply ∧
        reply.metadata = .ok metadata
  unthreaded : ¬ Uri.Sendable locator.commentsPath →
    ∀ reply metadata, (server.replies requests).head? = some reply →
      reply.metadata = .ok metadata →
      ∃ detail, result = .error (.api ("issue comments failed:" ++ detail))
  /-- A reply that is a fault is the last one asked for, and the result is this fault. -/
  stops : ∀ place failure, (verdicts (server.replies requests))[place]? = some (some failure) →
    requests.length = place + 1 ∧ result = .error failure
  /-- Nothing else goes wrong, if both paths can be sent. -/
  blames : Uri.Sendable locator.pullRequestPath → Uri.Sendable locator.commentsPath →
    ∀ failure, result = .error failure →
      (verdicts (server.replies requests)).getLast? = some (some failure)
  /-- No request is made but by the client. -/
  made : ∀ request ∈ requests, ∃ uri, client.request uri = request

/-- Where its path is no address, neither the pull request nor its comments are asked for. -/
theorem Client.run_links_of_no_address {fault : Uri.Fault} (client : Client) (pattern : Pattern)
    (refused : Uri.read locator.pullRequestPath = .error fault) (server : Server) :
    (client.gateway.links pattern locator).run { server } =
      ⟨.error (Fault.address.failure .pullRequest), [], { server }⟩ := by
  have unasked := run_pullRequest_of_no_address client refused { server }
  have failed : ((client.gateway.pullRequest locator).run { server }).result =
      .error (Fault.address.failure .pullRequest) := by rw [unasked]
  rw [Gateway.run_links_of_pullRequest_error pattern failed, unasked]

theorem dialogue_of_unfit_pullRequest (unfit : ¬ Uri.Sendable locator.pullRequestPath) :
    Dialogue client locator server [] (.error (Fault.address.failure .pullRequest)) where
  opening sendable := absurd sendable unfit
  unopened _ := by
    obtain ⟨detail, told⟩ := Fault.exists_detail .pullRequest .address (.inl rfl)
    exact ⟨rfl, detail, congrArg Except.error told⟩
  thread := by simp
  threaded := by simp [Server.replies]
  unthreaded := by simp [Server.replies]
  stops := by simp [Server.replies, verdicts]
  blames sendable := absurd sendable unfit
  made := by simp

section

variable {metadata : Metadata} {link : Uri}
variable (sendable : Uri.Sendable locator.pullRequestPath)
variable (path : Uri.ofPath locator.pullRequestPath = uri)
include sendable path

theorem dialogue_of_no_pullRequest {fault : Fault}
    (failed : (server.reply (client.request uri)).metadata = .error fault) :
    Dialogue client locator server [client.request uri] (.error (fault.failure .pullRequest)) where
  opening _ := ⟨_, rfl, path ▸ client.asks_request uri⟩
  unopened unfit := absurd sendable unfit
  thread := by simp
  threaded := by simp [Server.replies, failed]
  unthreaded _ reply metadata first answered := by
    cases first
    rw [failed] at answered
    cases answered
  stops := by
    intro place failure found
    rw [verdicts_single, failed] at found
    obtain ⟨rfl, same⟩ := eq_of_verdict found
    exact ⟨rfl, failure?_eq_some_iff.mp same⟩
  blames _ _ failure same := by
    cases same
    rw [verdicts_single, failed, List.getLast?_concat]
    rfl
  made := by simp

theorem dialogue_of_unfit_comments
    (answered : (server.reply (client.request uri)).metadata = .ok metadata)
    (unfit : ¬ Uri.Sendable locator.commentsPath) :
    Dialogue client locator server [client.request uri]
      (.error (Fault.address.failure .issueComments)) where
  opening _ := ⟨_, rfl, path ▸ client.asks_request uri⟩
  unopened unfit := absurd sendable unfit
  thread := by simp
  threaded := by simp [unfit]
  unthreaded _ _ _ _ _ := by
    obtain ⟨detail, told⟩ := Fault.exists_detail .issueComments .address (.inl rfl)
    exact ⟨detail, congrArg Except.error told⟩
  stops := by
    intro place failure found
    rw [verdicts_single, answered] at found
    obtain ⟨-, clear⟩ := eq_of_verdict found
    cases clear
  blames _ sendable := absurd sendable unfit
  made := by simp

theorem dialogue_of_course {course : Course}
    (answered : (server.reply (client.request uri)).metadata = .ok metadata)
    (sendable' : Uri.Sendable locator.commentsPath)
    (path' : Uri.ofPath locator.commentsPath = link)
    (follows : course.Follows client link (server.after (client.request uri)))
    (judged : failure? result = failure? (course.last.mapError (Fault.failure .issueComments))) :
    Dialogue client locator server (client.request uri :: course.requests client link) result := by
  -- All verdicts but the last are clear, and the last one is that of the course.
  have reported : verdicts (server.replies (client.request uri :: course.requests client link)) =
      List.replicate (course.passed.length + 1) none ++ [failure? result] := by
    rw [judged, List.replicate_succ, List.cons_append, ← follows.verdicts]
    simp [Server.replies, verdicts, answered]
  have length : (course.requests client link).length = course.passed.length + 1 := by
    have same := congrArg List.length follows.read
    simpa using same
  constructor
  case opening => exact fun _ => ⟨_, rfl, path ▸ client.asks_request uri⟩
  case unopened => exact fun unfit => absurd sendable unfit
  case thread =>
    intro request found
    obtain rfl : client.request link = request := by simpa [Course.requests] using found
    exact path' ▸ client.asks_request link
  case threaded =>
    refine iff_of_true ?_ ⟨sendable', _, metadata, rfl, answered⟩
    rw [List.length_cons, length]
    omega
  case unthreaded => exact fun unfit => absurd sendable' unfit
  case stops =>
    intro place failure found
    rw [reported] at found
    obtain ⟨last, failed⟩ := eq_of_verdict found
    exact ⟨by rw [List.length_cons, length, last], failure?_eq_some_iff.mp failed⟩
  case blames =>
    intro _ _ failure failed
    rw [reported, List.getLast?_concat, failed, failure?_error]
  case made =>
    intro request member
    rcases List.mem_cons.mp member with rfl | later
    · exact ⟨uri, rfl⟩
    · obtain ⟨next, -, same⟩ := List.mem_map.mp later
      exact ⟨next, same⟩

end

/-- Reading the links of a pull request is such a dialogue, whatever the server does. -/
theorem dialogue_links (client : Client) (locator : Locator) (pattern : Pattern)
    (server : Server) :
    Dialogue client locator server
      ((client.gateway.links pattern locator).run { server }).state.requests
      ((client.gateway.links pattern locator).run { server }).result := by
  -- The cases are the places where a dialogue can end: each of the two paths may be unfit to be
  -- sent, the reply may be no pull request, and behind that the course of the thread decides.
  by_cases sendable : Uri.Sendable locator.pullRequestPath
  case neg =>
    obtain ⟨fault, refused⟩ :=
      Uri.exists_fault_of_not_sendable locator.head?_pullRequestPath sendable
    rw [Client.run_links_of_no_address client pattern refused]
    exact dialogue_of_unfit_pullRequest sendable
  obtain ⟨uri, path⟩ : ∃ uri, Uri.ofPath locator.pullRequestPath = uri := ⟨_, rfl⟩
  have address := Uri.read_of_sendable locator.head?_pullRequestPath sendable
  rw [path] at address
  have asked := Client.run_pullRequest_of_address client address { server }
  cases reply : (server.reply (client.request uri)).metadata with
  | error fault =>
    have failed : ((client.gateway.pullRequest locator).run { server }).result =
        .error (fault.failure .pullRequest) := by
      rw [asked, reply]
      rfl
    rw [Gateway.run_links_of_pullRequest_error pattern failed, asked]
    exact dialogue_of_no_pullRequest sendable path reply
  | ok metadata =>
  have answered : ((client.gateway.pullRequest locator).run { server }).result =
      .ok metadata := by
    rw [asked, reply]
    rfl
  by_cases sendable' : Uri.Sendable locator.commentsPath
  case neg =>
    obtain ⟨fault, refused⟩ :=
      Uri.exists_fault_of_not_sendable locator.head?_commentsPath sendable'
    obtain ⟨failed, left⟩ := Client.run_comments_of_no_address refused
      ((client.gateway.pullRequest locator).run { server }).state
    obtain ⟨stopped, state⟩ := Gateway.run_links_of_comments_error pattern answered failed
    rw [stopped, state, left, asked]
    exact dialogue_of_unfit_comments sendable path reply sendable'
  obtain ⟨link, path'⟩ : ∃ link, Uri.ofPath locator.commentsPath = link := ⟨_, rfl⟩
  have address := Uri.read_of_sendable locator.head?_commentsPath sendable'
  rw [path'] at address
  obtain ⟨course, follows⟩ := Course.exists_follows client link
    (server.after (client.request uri))
  have followed : course.Follows client link
      ((client.gateway.pullRequest locator).run { server }).state.server := by
    rw [asked]
    exact follows
  obtain ⟨thread, left⟩ := Client.run_comments_of_follows address followed
  obtain ⟨judged, state⟩ := Gateway.run_links_of_pullRequest_ok pattern answered
  rw [state, left, asked]
  refine dialogue_of_course sendable path reply sendable' path' follows ?_
  rw [judged, thread, Course.pages]
  cases course.last <;> rfl

theorem Client.parts_of_connect {token : Option AccessToken}
    (connected : connect token locator = .ok client) :
    Uri.read locator.apiBase.text = .ok client.base ∧ client.token = token := by
  unfold connect at connected
  split at connected
  · cases connected
    exact ⟨‹_›, rfl⟩
  · cases connected

end

end Remote

namespace Settings

variable {settings : Settings} {number : Nat}

theorem links_of_first?_none (environment : Variables) (server : Remote.Server)
    (clear : Check.first? settings number = none) :
    ∃ (locator : Locator) (pattern : Pattern) (client : Remote.Client),
      settings.locator number = .ok locator ∧
      Remote.Client.connect (settings.resolveToken environment) locator = .ok client ∧
      ((settings.scan environment number).run { server }).result =
        ((client.gateway.links pattern locator).run { server }).result ∧
      ((settings.scan environment number).run { server }).state =
        ((client.gateway.links pattern locator).run { server }).state := by
  obtain ⟨locator, pattern, client, located, compiled, connected⟩ :=
    ready_of_first?_none (settings.resolveToken environment) clear
  exact ⟨locator, pattern, client, located, connected,
    run_scan_of_connect_ok { server } located compiled connected⟩

private def scanned (owner : String) : Settings where
  owner := some owner
  repository := some "r"
  apiBase := some "http://h/"

end Settings

end DependencyLinks
