import DependencyLinks.Remote.Visit

/-! The reading of a thread page by page: which requests it sends to a server, and what their
replies make of it. -/

namespace DependencyLinks.Remote

namespace Server

/-- What comes back for a request. A server that is down loses it. -/
def reply : Server → Request → Reply
  | .down, _ => .lost
  | .up reply _, request => reply request

/-- The server behind a request. -/
def after : Server → Request → Server
  | .down, _ => .down
  | .up _ next, request => next request

/-- What comes back for some requests, sent one after another. -/
def replies (server : Server) : List Request → List Reply
  | [] => []
  | request :: requests => server.reply request :: (server.after request).replies requests

def afterAll (server : Server) (requests : List Request) : Server :=
  requests.foldl after server

theorem received_nil (server : Server) : server.received [] = [] := by
  cases server <;> rfl

end Server

/-- How a thread was read from an address on: the addresses that followed it, the pages that named
them, and what the last reply was good for. -/
structure Course where
  links : List Uri
  passed : List Page
  last : Except Fault Page

namespace Course

variable {client : Client} {uri link : Uri} {server : Server}

def requests (course : Course) (client : Client) (uri : Uri) : List Request :=
  (uri :: course.links).map client.request

/-- The comments of all pages, if the last one is a page as well. -/
def pages (course : Course) : Except Fault (List (List Comment)) :=
  course.last.map fun page => (course.passed ++ [page]).map Page.comments

/-- The replies of the server are the pages that were passed and the last one. Every page that was
passed names the address that came next, and the last one names none. -/
structure Follows (course : Course) (client : Client) (uri : Uri) (server : Server) : Prop where
  read : (server.replies (course.requests client uri)).map Reply.page =
    course.passed.map Except.ok ++ [course.last]
  linked : course.passed.map Page.next = course.links.map some
  ended : ∀ page, course.last = .ok page → page.next = none

/-- The course with one more page in front. -/
def behind (course : Course) (link : Uri) (page : Page) : Course where
  links := link :: course.links
  passed := page :: course.passed
  last := course.last

theorem follows_single {last : Except Fault Page}
    (read : (server.reply (client.request uri)).page = last)
    (ended : ∀ page, last = .ok page → page.next = none) :
    Follows ⟨[], [], last⟩ client uri server where
  read := by simp [requests, Server.replies, read]
  linked := rfl
  ended := ended

theorem follows_behind_iff {course : Course} {page : Page} :
    (course.behind link page).Follows client uri server ↔
      (server.reply (client.request uri)).page = .ok page ∧ page.next = some link ∧
        course.Follows client link (server.after (client.request uri)) := by
  constructor
  · intro follows
    have read := follows.read
    have linked := follows.linked
    simp only [behind, requests, Server.replies, List.map_cons, List.cons_append,
      List.cons.injEq] at read linked
    exact ⟨read.1, linked.1, read.2, linked.2, follows.ended⟩
  · rintro ⟨first, next, follows⟩
    have read := follows.read
    simp only [requests, List.map_cons] at read
    exact {
      read := by simp [behind, requests, Server.replies, first, ← read]
      linked := by simp [behind, next, follows.linked]
      ended := follows.ended }

/-- Every server gives the reading of a thread some course. -/
theorem exists_follows (client : Client) (uri : Uri) (server : Server) :
    ∃ course : Course, course.Follows client uri server := by
  induction server generalizing uri with
  | down => exact ⟨_, follows_single rfl nofun⟩
  | up reply next ih =>
    rcases read : (reply (client.request uri)).page with fault | ⟨comments, _ | link⟩
    · exact ⟨_, follows_single read nofun⟩
    · refine ⟨_, follows_single read ?_⟩
      intro page same
      cases same
      rfl
    · obtain ⟨course, follows⟩ := ih (client.request uri) link
      exact ⟨course.behind link ⟨comments, some link⟩, follows_behind_iff.mpr ⟨read, rfl, follows⟩⟩

/-- A course ends with the first reply, or goes on behind a page. -/
theorem Follows.cases {course : Course} (follows : course.Follows client uri server) :
    ((server.reply (client.request uri)).page = course.last ∧ course = ⟨[], [], course.last⟩) ∨
      ∃ link page rest, course = behind rest link page := by
  obtain ⟨links, passed, last⟩ := course
  have linked := follows.linked
  cases passed with
  | nil =>
    cases links with
    | nil =>
      have read := follows.read
      simp only [requests, Server.replies, List.map_cons, List.map_nil, List.nil_append,
        List.cons.injEq] at read
      exact .inl ⟨read.1, rfl⟩
    | cons link links => simp at linked
  | cons page passed =>
    cases links with
    | nil => simp at linked
    | cons link links => exact .inr ⟨link, page, ⟨links, passed, last⟩, rfl⟩

/-- All requests of a course reach the server, unless it is down for the last one. -/
theorem Follows.received {course : Course} (follows : course.Follows client uri server) :
    server.received (course.requests client uri) = course.requests client uri ∨
      server.received (course.requests client uri) = (course.requests client uri).dropLast ∧
        course.last = .error .unreachable := by
  induction passed : course.passed generalizing course uri server with
  | nil =>
    rcases follows.cases with ⟨read, single⟩ | ⟨link, page, rest, rfl⟩
    · rw [single]
      cases server with
      | down => exact .inr ⟨rfl, read.symm⟩
      | up reply next => exact .inl (congrArg _ (Server.received_nil _))
    · simp [behind] at passed
  | cons page passed' ih =>
    rcases follows.cases with ⟨read, single⟩ | ⟨link, page, rest, rfl⟩
    · rw [single] at passed
      simp at passed
    · obtain ⟨read, -, follows⟩ := follows_behind_iff.mp follows
      cases server with
      | down => cases read
      | up reply next =>
        have later := ih follows (List.cons.inj passed).2
        rcases later with all | ⟨front, last⟩
        · exact .inl (congrArg (client.request uri :: ·) all)
        · exact .inr ⟨congrArg (client.request uri :: ·) front, last⟩

theorem pages_behind (course : Course) (link : Uri) (page : Page) :
    (course.behind link page).pages = course.pages.map (page.comments :: ·) := by
  unfold pages behind
  cases course.last <;> rfl

end Course

namespace Client

/-- The reading of a thread by what the first reply is good for. -/
theorem pages_eq (client : Client) (uri : Uri) (server : Server) :
    client.pages uri server =
      match (server.reply (client.request uri)).page with
      | .error fault => ⟨.error fault, [client.request uri], server.after (client.request uri)⟩
      | .ok ⟨comments, none⟩ =>
        ⟨.ok [comments], [client.request uri], server.after (client.request uri)⟩
      | .ok ⟨comments, some link⟩ =>
        let later := client.pages link (server.after (client.request uri))
        ⟨later.result.map (comments :: ·), client.request uri :: later.requests,
          later.server⟩ := by
  cases server <;> rfl

/-- A thread is read as the course that the server gives it says. -/
theorem pages_of_follows {client : Client} {uri : Uri} {server : Server} {course : Course}
    (follows : course.Follows client uri server) :
    client.pages uri server =
      ⟨course.pages, course.requests client uri,
        server.afterAll (course.requests client uri)⟩ := by
  induction passed : course.passed generalizing course uri server with
  | nil =>
    rcases follows.cases with ⟨read, single⟩ | ⟨link, page, rest, rfl⟩
    · rw [pages_eq, single, read]
      cases last : course.last with
      | error fault => rfl
      | ok page =>
        obtain ⟨comments, next⟩ := page
        cases follows.ended _ last
        rfl
    · simp [Course.behind] at passed
  | cons page passed' ih =>
    rcases follows.cases with ⟨read, single⟩ | ⟨link, page, rest, rfl⟩
    · rw [single] at passed
      simp at passed
    · obtain ⟨read, next, follows⟩ := Course.follows_behind_iff.mp follows
      have later := ih follows (List.cons.inj passed).2
      obtain ⟨comments, _⟩ := page
      cases next
      rw [pages_eq, read, Course.pages_behind]
      simp only [later]
      rfl

end Client

end DependencyLinks.Remote
