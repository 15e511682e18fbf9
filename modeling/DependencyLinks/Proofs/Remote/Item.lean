import DependencyLinks.Remote.Visit
import DependencyLinks.Proofs.Traverse

/-! What a page says of its comments, item by item. -/

namespace DependencyLinks

namespace Json

/-- The part of an object under a key, or of a list at a place. -/
def part? (place : Nat) (key : String) : Json → Option Json
  | .object members => last? members key
  | .array items => items[place]?
  | _ => none

/-- A text says itself; what is absent or null says nothing. -/
def Says (part : Option Json) : Option String → Prop
  | some text => part = some (.string text)
  | none => part = none ∨ part = some .null

end Json

/-- The item gives the number and the body of the comment, and its user the author. -/
structure Comment.ToldBy (comment : Comment) (item : Json) : Prop where
  id : item.part? 0 "id" = some (.natural comment.id)
  body : Json.Says (item.part? 1 "body") comment.body
  author : Json.Says ((item.part? 2 "user").bind (·.part? 0 "login")) comment.author

namespace Remote

theorem says_of_optionalText? {value : Json} {text : Option String}
    (read : optionalText? value = some text) : Json.Says (some value) text := by
  unfold optionalText? at read
  split at read
  · cases read
    exact .inr rfl
  · cases read
    rfl
  · cases read

theorem says_of_optionalText?_getD {part : Option Json} {text : Option String}
    (read : optionalText? (part.getD .null) = some text) : Json.Says part text := by
  cases part with
  | none =>
    cases read
    exact .inl rfl
  | some value => exact says_of_optionalText? read

theorem eq_natural_of_natural? {value : Json} {n : Nat} (read : natural? value = some n) :
    value = .natural n := by
  unfold natural? at read
  split at read
  · cases read
    rfl
  · cases read

theorem says_of_lastLogin? {user : Json} {login : Option String}
    (read : lastLogin? user = some login) : Json.Says (user.part? 0 "login") login := by
  unfold lastLogin? at read
  split at read
  · cases read
    exact .inl rfl
  · exact says_of_optionalText?_getD read
  · exact says_of_optionalText? read
  · cases read

theorem comment?_eq_some {id body user : Json} {comment : Comment}
    (read : comment? id body user = some comment) :
    natural? id = some comment.id ∧ optionalText? body = some comment.body ∧
      lastLogin? user = some comment.author := by
  simp only [comment?, bind, Option.bind_eq_some_iff, pure, Option.some.injEq] at read
  obtain ⟨id, first, body, second, author, third, rfl⟩ := read
  exact ⟨first, second, third⟩

theorem toldBy_of_ofJson? {item : Json} {comment : Comment}
    (read : Comment.ofJson? item = some comment) : comment.ToldBy item := by
  unfold Comment.ofJson? at read
  split at read
  · rename_i members
    obtain ⟨id, body, author⟩ := comment?_eq_some read
    refine ⟨?_, says_of_optionalText?_getD body, ?_⟩
    · have number := eq_natural_of_natural? id
      cases given : Json.last? members "id" with
      | none => simp [given] at number
      | some value => simpa [Json.part?, given] using number
    · change lastLogin? ((Json.last? members "user").getD .null) = some comment.author at author
      cases given : Json.last? members "user" with
      | none =>
        rw [given] at author
        have absent : comment.author = none := (Option.some.inj author).symm
        rw [absent]
        exact .inl (by simp [Json.part?, given])
      | some user =>
        rw [given] at author
        simpa [Json.part?, given] using says_of_lastLogin? author
  · obtain ⟨id, body, author⟩ := comment?_eq_some read
    exact ⟨congrArg some (eq_natural_of_natural? id), says_of_optionalText? body,
      says_of_lastLogin? author⟩
  · cases read

/-- The items that a reply carries. -/
def Reply.items : Reply → List Json
  | .answered response => ((Json.read response.body).bind items?).getD []
  | .lost => []

theorem forall₂_of_mapM {items : List Json} {comments : List Comment}
    (read : items.mapM Comment.ofJson? = some comments) :
    List.Forall₂ Comment.ToldBy comments items :=
  (mapM_eq_some_iff.mp read).flip.imp fun _ _ => toldBy_of_ofJson?

theorem Response.comments?_of_page {response : Response} {page : Page}
    (read : response.page = .ok page) : comments? response.body = some page.comments := by
  cases next : response.next with
  | error fault => simp [Response.page, next] at read
  | ok link =>
    cases found : comments? response.body with
    | none => simp [Response.page, next, found] at read
    | some comments =>
      simp only [Response.page, next, found, Except.ok.injEq] at read
      rw [← read]

theorem Reply.eq_answered_of_success {reply : Reply} {response : Response}
    (success : reply.success = .ok response) : reply = .answered response := by
  cases reply with
  | lost => cases success
  | answered other =>
    simp only [Reply.success] at success
    split at success
    · rw [Except.ok.inj success]
    · split at success <;> simp at success

/-- A page has one comment for each item, in the order of the items. -/
theorem Reply.forall₂_of_page {reply : Reply} {page : Page} (read : reply.page = .ok page) :
    List.Forall₂ Comment.ToldBy page.comments reply.items := by
  cases success : reply.success with
  | error fault => simp [Reply.page, success, bind, Except.bind] at read
  | ok response =>
    have read : response.page = .ok page := by
      simpa [Reply.page, success, bind, Except.bind] using read
    have found := Response.comments?_of_page read
    simp only [comments?, bind, Option.bind_eq_some_iff] at found
    obtain ⟨body, parsed, items, listed, told⟩ := found
    have carried : reply.items = items := by
      rw [Reply.eq_answered_of_success success]
      simp [Reply.items, parsed, listed]
    rw [carried]
    exact forall₂_of_mapM told

theorem forall₂_of_pages {replies : List Reply} {pages : List Page}
    (read : replies.map Reply.page = pages.map .ok) :
    List.Forall₂ Comment.ToldBy (pages.flatMap Page.comments) (replies.flatMap Reply.items) := by
  induction pages generalizing replies with
  | nil =>
    have none := List.map_eq_nil_iff.mp read
    subst none
    exact .nil
  | cons page pages ih =>
    obtain ⟨reply, rest, rfl, first, later⟩ := List.map_eq_cons_iff.mp read
    exact List.rel_append (Reply.forall₂_of_page first) (ih later)

end Remote

end DependencyLinks
