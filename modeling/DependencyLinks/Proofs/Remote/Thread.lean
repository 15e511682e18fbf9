import DependencyLinks.Proofs.Gateway
import DependencyLinks.Proofs.Remote.Asking
import DependencyLinks.Proofs.Remote.Course
import DependencyLinks.Proofs.Remote.Item
import DependencyLinks.Remote.Gateway

/-! The comments of a thread, and its links, by the course that a server gives the reading. -/

namespace DependencyLinks.Remote.Client

variable {client : Client} {locator : Locator} {uri : Uri}

theorem run_pullRequest_of_address (client : Client)
    (address : Uri.read locator.pullRequestPath = .ok uri) (connection : Connection) :
    (client.gateway.pullRequest locator).run connection =
      ⟨(connection.server.reply (client.request uri)).metadata.mapError
          (Fault.failure .pullRequest), [],
        { server := connection.server.after (client.request uri)
          requests := connection.requests ++ [client.request uri] }⟩ := by
  have asked : client.pullRequest locator connection.server =
      ⟨(connection.server.reply (client.request uri)).metadata, [client.request uri],
        connection.server.after (client.request uri)⟩ := by
    simp only [pullRequest, visit, address]
    cases connection.server <;> rfl
  simp only [gateway, Visit.activity, Activity.run, asked]

/-- A path that is no address is not sent. -/
theorem run_pullRequest_of_no_address {fault : Uri.Fault} (client : Client)
    (refused : Uri.read locator.pullRequestPath = .error fault) (connection : Connection) :
    (client.gateway.pullRequest locator).run connection =
      ⟨.error (Fault.address.failure .pullRequest), [], connection⟩ := by
  have unasked : client.pullRequest locator connection.server =
      ⟨.error .address, [], connection.server⟩ := by
    simp only [pullRequest, visit, refused]
  simp only [gateway, Visit.activity, Activity.run, unasked, mapError_error, List.append_nil]

theorem run_comments (client : Client) (locator : Locator) (connection : Connection) :
    ((client.gateway.comments locator).run connection).result =
        ((client.thread locator connection.server).result.map List.flatten).mapError
          (Fault.failure .issueComments) ∧
      ((client.gateway.comments locator).run connection).state =
        { server := (client.thread locator connection.server).server
          requests := connection.requests ++
            (client.thread locator connection.server).requests } := by
  have visited : (Visit.activity .issueComments (client.thread locator)).run connection =
      ⟨(client.thread locator connection.server).result.mapError (Fault.failure .issueComments), [],
        { server := (client.thread locator connection.server).server
          requests := connection.requests ++
            (client.thread locator connection.server).requests }⟩ := rfl
  cases result : (client.thread locator connection.server).result <;>
    simp [gateway, Activity.run_bind, visited, result, Except.map]

/-- A path that is no address fails before anything is sent. -/
theorem run_comments_of_no_address {fault : Uri.Fault}
    (refused : Uri.read locator.commentsPath = .error fault) (connection : Connection) :
    ((client.gateway.comments locator).run connection).result =
        .error (Fault.address.failure .issueComments) ∧
      ((client.gateway.comments locator).run connection).state = connection := by
  have thread : client.thread locator connection.server =
      ⟨.error .address, [], connection.server⟩ := by
    simp [Client.thread, visit, refused]
  obtain ⟨result, state⟩ := run_comments client locator connection
  rw [result, state, thread]
  simp [Except.map]

theorem run_comments_of_follows {course : Course} {connection : Connection}
    (address : Uri.read locator.commentsPath = .ok uri)
    (follows : course.Follows client uri connection.server) :
    ((client.gateway.comments locator).run connection).result =
        (course.pages.map List.flatten).mapError (Fault.failure .issueComments) ∧
      ((client.gateway.comments locator).run connection).state =
        { server := connection.server.afterAll (course.requests client uri)
          requests := connection.requests ++ course.requests client uri } := by
  have thread : client.thread locator connection.server =
      ⟨course.pages, course.requests client uri,
        connection.server.afterAll (course.requests client uri)⟩ := by
    simp [Client.thread, visit, address, pages_of_follows follows]
  obtain ⟨result, state⟩ := run_comments client locator connection
  rw [result, state, thread]
  exact ⟨rfl, rfl⟩

/-- The server answers for the pull request and then serves its thread in these pages. -/
structure Serves (client : Client) (locator : Locator) (server : Server)
    (pages : List (List Comment)) : Prop where
  sendable : Uri.Sendable locator.pullRequestPath ∧ Uri.Sendable locator.commentsPath
  answered : ∃ metadata,
    (server.reply (client.request (.ofPath locator.pullRequestPath))).metadata = .ok metadata
  thread : ∃ course : Course,
    course.Follows client (.ofPath locator.commentsPath)
      (server.after (client.request (.ofPath locator.pullRequestPath))) ∧
    course.pages = .ok pages

/-- However a thread is cut into pages, its links are those of its comments in order. -/
theorem run_links_of_serves {server : Server} {pages : List (List Comment)} (pattern : Pattern)
    (serves : client.Serves locator server pages) :
    ((client.gateway.links pattern locator).run { server }).result =
      .ok (pattern.linksInAll (Comment.bodies pages.flatten)) := by
  obtain ⟨⟨path, commentsPath⟩, ⟨metadata, answered⟩, course, follows, read⟩ := serves
  have asked := run_pullRequest_of_address client
    (Uri.read_of_sendable locator.head?_pullRequestPath path) { server }
  have found : ((client.gateway.pullRequest locator).run { server }).result = .ok metadata := by
    rw [asked, answered]
    rfl
  have thread : ((client.gateway.comments locator).run
      ((client.gateway.pullRequest locator).run { server }).state).result =
        .ok pages.flatten := by
    have address := Uri.read_of_sendable locator.head?_commentsPath commentsPath
    rw [asked, (run_comments_of_follows address follows).1, read]
    rfl
  exact (Gateway.run_links_of_comments_ok pattern found thread).1

/-- How the comments of a thread are read. Its path is asked for first, and then the address that
each page names, in turn. The first reply that is no page, or names none, is the last one asked for.
It decides the outcome: a fault is reported and the pages before it are dropped; behind a page the
comments are those of all pages, one for each item served, in order. -/
structure Reading (client : Client) (locator : Locator) (connection : Connection)
    (outcome : Outcome Connection (List Comment)) (course : Course) : Prop where
  follows : course.Follows client (.ofPath locator.commentsPath) connection.server
  sent : outcome.state.requests =
    connection.requests ++ course.requests client (.ofPath locator.commentsPath)
  asked : List.Forall₂ client.Asks (.ofPath locator.commentsPath :: course.links)
    (course.requests client (.ofPath locator.commentsPath))
  /-- A server that is down when the last request is sent does not see this one. -/
  received :
    let requests := course.requests client (.ofPath locator.commentsPath)
    connection.server.received requests = requests ∨
      connection.server.received requests = requests.dropLast ∧
        course.last = .error .unreachable
  failed : ∀ fault, course.last = .error fault →
    outcome.result = .error (fault.failure .issueComments)
  done : ∀ page, course.last = .ok page →
    outcome.result = .ok ((course.passed ++ [page]).flatMap Page.comments) ∧
      List.Forall₂ Comment.ToldBy ((course.passed ++ [page]).flatMap Page.comments)
        ((connection.server.replies
          (course.requests client (.ofPath locator.commentsPath))).flatMap Reply.items)

theorem exists_reading (client : Client) (connection : Connection)
    (sendable : Uri.Sendable locator.commentsPath) :
    ∃ course, client.Reading locator connection
      ((client.gateway.comments locator).run connection) course := by
  have address := Uri.read_of_sendable locator.head?_commentsPath sendable
  obtain ⟨course, follows⟩ :=
    Course.exists_follows client (.ofPath locator.commentsPath) connection.server
  obtain ⟨result, state⟩ := run_comments_of_follows address follows
  refine ⟨course, follows, congrArg Connection.requests state, ?asked, follows.received,
    ?failed, ?done⟩
  case asked =>
    rw [Course.requests, List.forall₂_map_right_iff]
    exact List.forall₂_same.mpr fun uri _ => asks_request client uri
  case failed =>
    intro fault last
    simp [result, Course.pages, last, Except.map]
  case done =>
    intro page last
    refine ⟨?_, forall₂_of_pages ?_⟩
    · simp [result, Course.pages, last, Except.map, List.flatMap]
    · simp [follows.read, last]

/-- A path that cannot be sent is reported, and the connection stays as it is. -/
theorem run_comments_of_not_sendable (client : Client) (connection : Connection)
    (unfit : ¬ Uri.Sendable locator.commentsPath) :
    ((client.gateway.comments locator).run connection).state = connection ∧
      ∃ detail, ((client.gateway.comments locator).run connection).result =
        .error (.api ("issue comments failed:" ++ detail)) := by
  obtain ⟨fault, refused⟩ := Uri.exists_fault_of_not_sendable locator.head?_commentsPath unfit
  obtain ⟨result, state⟩ := run_comments_of_no_address refused connection
  obtain ⟨detail, told⟩ := Fault.exists_detail .issueComments .address (.inl rfl)
  exact ⟨state, detail, by rw [result, told]; rfl⟩

/-- A thread whose path can be sent is read page by page, as its server cuts it. One whose path
cannot be sent is not asked for at all. The links of a thread do not depend on how it is cut into
pages. -/
theorem comments_of_thread (client : Client) (locator : Locator) :
    (∀ connection : Connection,
      let outcome := (client.gateway.comments locator).run connection
      (Uri.Sendable locator.commentsPath →
        ∃ course, client.Reading locator connection outcome course) ∧
      (¬ Uri.Sendable locator.commentsPath →
        outcome.state = connection ∧
          ∃ detail, outcome.result = .error (.api ("issue comments failed:" ++ detail)))) ∧
    ∀ (pattern : Pattern) (thread : List Comment) (first second : Server)
      (pages others : List (List Comment)),
      pages.flatten = thread → others.flatten = thread →
      client.Serves locator first pages → client.Serves locator second others →
      ((client.gateway.links pattern locator).run { server := first }).result =
          ((client.gateway.links pattern locator).run { server := second }).result ∧
        ((client.gateway.links pattern locator).run { server := first }).result =
          .ok (pattern.linksInAll (Comment.bodies thread)) := by
  constructor
  · exact fun connection =>
      ⟨exists_reading client connection, run_comments_of_not_sendable client connection⟩
  · rintro pattern thread first second pages others rfl same serves serves'
    rw [run_links_of_serves pattern serves, run_links_of_serves pattern serves', same]
    exact ⟨rfl, rfl⟩

private def sampleClient : Client where
  base := { scheme := some "http", authority := some "h", target := some "/" }
  token := none

private def sampleLocator (owner : String) : Locator where
  apiBase := { scheme := "http", place := .path (some { host := some (.name "h") }) [""] }
  owner := ⟨owner⟩
  repository := ⟨"r"⟩
  number := ⟨7, by decide⟩

private def found : Reply := .answered { body := "\x7b\"number\":7\x7d" }

private def served (next body : String) : Reply :=
  .answered { headers := [("Link", next)], body := "[" ++ body ++ "]" }

private def firstItem : String := "\x7b\"id\":1,\"body\":\"depends: https://github.com/a\"\x7d"

private def secondItem : String := "\x7b\"id\":2,\"user\":\x7b\"login\":\"l\"\x7d\x7d"

private def sampleThread : List Comment :=
  [{ id := 1, body := some "depends: https://github.com/a" }, { id := 2, author := some "l" }]

private def onePage : Server := .replaying [found, served "" (firstItem ++ "," ++ secondItem)]

private def threePages : Server :=
  .replaying [found, served "</a>; rel=next" "", served "</b>; rel=\"next\"" firstItem,
    served "</a>; rel=prev" secondItem]

private theorem sendable_sampleLocator :
    Uri.Sendable (sampleLocator "o").pullRequestPath ∧
      Uri.Sendable (sampleLocator "o").commentsPath := by
  have pullRequest : Uri.read (sampleLocator "o").pullRequestPath =
      .ok { target := some "/repos/o/r/pulls/7" } := by decide +kernel
  have comments : Uri.read (sampleLocator "o").commentsPath =
      .ok { target := some "/repos/o/r/issues/7/comments" } := by decide +kernel
  exact ⟨Uri.sendable_of_read (Locator.head?_pullRequestPath _) pullRequest,
    Uri.sendable_of_read (Locator.head?_commentsPath _) comments⟩

private theorem serves_onePage :
    sampleClient.Serves (sampleLocator "o") onePage [sampleThread] where
  sendable := sendable_sampleLocator
  answered := ⟨{ number := 7 }, by decide +kernel⟩
  thread := by
    refine ⟨⟨[], [], .ok ⟨sampleThread, none⟩⟩, ⟨?_, rfl, ?_⟩, rfl⟩
    · decide +kernel
    · rintro _ ⟨⟩
      rfl

private theorem serves_threePages :
    sampleClient.Serves (sampleLocator "o") threePages
      [[], sampleThread.take 1, sampleThread.drop 1] where
  sendable := sendable_sampleLocator
  answered := ⟨{ number := 7 }, by decide +kernel⟩
  thread := by
    refine ⟨⟨[{ target := some "/a" }, { target := some "/b" }],
      [⟨[], some { target := some "/a" }⟩, ⟨sampleThread.take 1, some { target := some "/b" }⟩],
      .ok ⟨sampleThread.drop 1, none⟩⟩, ⟨?_, rfl, ?_⟩, rfl⟩
    · decide +kernel
    · rintro _ ⟨⟩
      rfl

private def samplePattern : Pattern where
  marker := Pattern.defaultMarker
  linkStart := Pattern.defaultLinkStart
  fits := by decide

/-- One page and three pages, of which the first is empty, give the same link. An owner with a space
in it keeps the thread from being asked for. -/
theorem comments_of_thread_recut :
    [sampleThread].flatten = sampleThread ∧
      [[], sampleThread.take 1, sampleThread.drop 1].flatten = sampleThread ∧
      sampleClient.Serves (sampleLocator "o") onePage [sampleThread] ∧
      sampleClient.Serves (sampleLocator "o") threePages
        [[], sampleThread.take 1, sampleThread.drop 1] ∧
      ((sampleClient.gateway.links samplePattern (sampleLocator "o")).run
          { server := onePage }).result =
        ((sampleClient.gateway.links samplePattern (sampleLocator "o")).run
          { server := threePages }).result ∧
      ((sampleClient.gateway.links samplePattern (sampleLocator "o")).run
          { server := onePage }).result = .ok ["https://github.com/a"] ∧
      (∃ course, sampleClient.Reading (sampleLocator "o") { server := onePage }
        ((sampleClient.gateway.comments (sampleLocator "o")).run { server := onePage }) course) ∧
      ¬ Uri.Sendable (sampleLocator "a b").commentsPath ∧
      ∃ detail, ((sampleClient.gateway.comments (sampleLocator "a b")).run
        { server := onePage }).result = .error (.api ("issue comments failed:" ++ detail)) := by
  obtain ⟨read, recut⟩ := comments_of_thread sampleClient (sampleLocator "o")
  have same := recut samplePattern sampleThread onePage threePages _ _ rfl rfl serves_onePage
    serves_threePages
  have links : samplePattern.linksInAll (Comment.bodies sampleThread) =
      ["https://github.com/a"] := by decide +kernel
  have unfit : ¬ Uri.Sendable (sampleLocator "a b").commentsPath := by
    intro sendable
    exact absurd (sendable.shown ' ' (by decide +kernel)).1 (by decide)
  have unsent := ((comments_of_thread sampleClient (sampleLocator "a b")).1 { server := onePage }).2
    unfit
  exact ⟨rfl, rfl, serves_onePage, serves_threePages, same.1, links ▸ same.2,
    (read { server := onePage }).1 sendable_sampleLocator.2, unfit, unsent.2⟩

/-- Nothing escapes the parts of a path. An owner with a space in it, which a locator accepts, keeps
the comments path from being asked for, and one with a number sign has it cut off. -/
theorem comments_of_thread_unescaped :
    Locator.ofParts "http://h/" "a b" "r" 7 = .ok (sampleLocator "a b") ∧
      connect none (sampleLocator "a b") = .ok sampleClient ∧
      (sampleLocator "a b").commentsPath = "/repos/a b/r/issues/7/comments" ∧
      ((sampleClient.gateway.comments (sampleLocator "a b")).run
        { server := onePage }).state.requests = [] ∧
      Locator.ofParts "http://h/" "a#b" "r" 7 = .ok (sampleLocator "a#b") ∧
      connect none (sampleLocator "a#b") = .ok sampleClient ∧
      (sampleLocator "a#b").commentsPath = "/repos/a#b/r/issues/7/comments" ∧
      ((sampleClient.gateway.comments (sampleLocator "a#b")).run
        { server := onePage }).state.requests.map Request.target = ["/repos/a"] := by
  decide +kernel

end DependencyLinks.Remote.Client
