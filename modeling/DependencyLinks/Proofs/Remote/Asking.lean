import DependencyLinks.Proofs.Uri.Path
import DependencyLinks.Remote.Client
import Mathlib.Data.List.DropRight

/-! What the requests of a client ask for. Whatever the address, a request goes to the base; path
and query are those of the address, behind the path of the base. -/

namespace DependencyLinks

/-- Path and query of an address as they are asked for, if it has any. They begin with a slash, also
where none is written. -/
inductive Uri.Shows (uri : Uri) : Option String → Prop where
  | rooted {target : String} (written : uri.target = some target)
      (slash : target.toList.head? = some '/') : Shows uri (some target)
  | star (written : uri.target = some "*") : Shows uri (some "*")
  | unrooted {target : String} (written : uri.target = some target)
      (slash : target.toList.head? ≠ some '/') (star : target ≠ "*") :
      Shows uri (some ("/" ++ target))
  | whole (unwritten : uri.target = none) (scheme : uri.scheme ≠ none) : Shows uri (some "/")
  | authority (unwritten : uri.target = none) (scheme : uri.scheme = none) : Shows uri none

namespace Remote.Client

/-- The path of the base, without its slashes at the end and without a query. -/
structure Root (client : Client) (root : String) : Prop where
  path : ∃ shown slashes query, client.base.Shows shown ∧
    (shown.getD "/").toList = root.toList ++ slashes ++ query ∧
    (∀ c ∈ slashes, c = '/') ∧ (query = [] ∨ query.head? = some '?')
  ended : root.toList.getLast? ≠ some '/'
  unopened : '?' ∉ root.toList

/-- Where path and query are asked for: behind the root, unless they begin with it. Without any, the
base is asked for itself. -/
inductive Places (client : Client) : Option String → String → Prop where
  | behind {root target : String} (base : client.Root root)
      (outside : ¬ root.toList <+: target.toList) : Places client (some target) (root ++ target)
  | inside {root target : String} (base : client.Root root)
      (inside : root.toList <+: target.toList) : Places client (some target) target
  | own {shown : Option String} (base : client.base.Shows shown) :
      Places client none (shown.getD "/")

/-- A request of the client that asks for an address. -/
structure Asks (client : Client) (uri : Uri) (request : Request) : Prop where
  scheme : request.scheme = client.base.scheme.getD ""
  authority : request.authority = client.base.authority.getD ""
  target : ∃ shown, uri.Shows shown ∧ client.Places shown request.target

variable {client : Client} {uri : Uri}

theorem startsWith_slash_iff {target : String} :
    target.startsWith "/" = true ↔ target.toList.head? = some '/' := by
  rw [String.startsWith_string_iff, List.head?_eq_some_iff]
  exact exists_congr fun rest => eq_comm

theorem shows_target? (uri : Uri) : uri.Shows (target? uri) := by
  unfold target?
  split
  next target written =>
    unfold sent
    split
    next kept =>
      simp only [Bool.or_eq_true, decide_eq_true_eq, startsWith_slash_iff] at kept
      rcases kept with slash | rfl
      · exact .rooted written slash
      · exact .star written
    next changed =>
      simp only [Bool.or_eq_true, decide_eq_true_eq, startsWith_slash_iff, not_or] at changed
      exact .unrooted written changed.1 changed.2
  next unwritten =>
    split
    next schemed => exact .whole unwritten (Option.isSome_iff_ne_none.mp schemed)
    next schemeless => exact .authority unwritten (by simpa using schemeless)

theorem root_basePath (client : Client) : client.Root (String.ofList client.basePath) := by
  set shown := ((target? client.base).getD "/").toList
  -- The base path is what is left of the path of the base once the slashes at its end are taken.
  have stripped : client.basePath = (shown.takeWhile (· != '?')).rdropWhile (· == '/') := rfl
  constructor
  all_goals rw [String.toList_ofList, stripped]
  case path =>
    refine ⟨_, (shown.takeWhile (· != '?')).rtakeWhile (· == '/'), shown.dropWhile (· != '?'),
      shows_target? client.base, ?_, ?_, ?_⟩
    · rw [List.rdropWhile_append_rtakeWhile, List.takeWhile_append_dropWhile]
    · intro c member
      simpa using List.mem_rtakeWhile_imp member
    · rcases Uri.dropWhile_query shown with nothing | ⟨query, marked⟩
      · exact .inl nothing
      · exact .inr (by rw [marked]; rfl)
  case ended =>
    intro last
    obtain ⟨front, ends⟩ := List.getLast?_eq_some_iff.mp last
    have more := List.rdropWhile_last_not (· == '/') (shown.takeWhile (· != '?'))
    simp [ends] at more
  case unopened =>
    intro member
    have inside := List.mem_takeWhile_imp ((List.rdropWhile_prefix _ _).subset member)
    simp at inside

theorem places_placed (client : Client) (target : String) :
    client.Places (some target) (client.placed target) := by
  have root := root_basePath client
  unfold placed
  split
  next inside =>
    rw [List.isPrefixOf_iff_prefix] at inside
    exact .inside root (by rwa [String.toList_ofList])
  next outside =>
    rw [List.isPrefixOf_iff_prefix] at outside
    rw [String.ofList_append, String.ofList_toList]
    exact .behind root (by rwa [String.toList_ofList])

/-- An address shows no other path and query than the client takes from it. -/
theorem target?_of_shows {shown : Option String} (shows : uri.Shows shown) :
    target? uri = shown := by
  cases shows with
  | rooted written slash =>
    simp [target?, written, sent, startsWith_slash_iff.mpr slash]
  | star written =>
    simp [target?, written, sent]
  | unrooted written slash star =>
    simp [target?, written, sent, mt startsWith_slash_iff.mp slash, star]
  | whole unwritten scheme =>
    simp [target?, unwritten, Option.isSome_iff_ne_none.mpr scheme]
  | authority unwritten scheme =>
    simp [target?, unwritten, scheme]

theorem basePath_of_root {root : String} (base : client.Root root) :
    client.basePath = root.toList := by
  obtain ⟨⟨shown, slashes, query, shows, written, closing, marked⟩, ended, unopened⟩ := base
  have whole : '?' ∉ root.toList ++ slashes := by
    rw [List.mem_append, not_or]
    exact ⟨unopened, fun member => absurd (closing '?' member) (by decide)⟩
  have path : (shown.getD "/").toList.takeWhile (· != '?') = root.toList ++ slashes := by
    rw [written]
    rcases marked with rfl | first
    · rw [List.append_nil, Text.takeWhile_ne_of_absent whole]
    · obtain ⟨rest, rfl⟩ := List.head?_eq_some_iff.mp first
      exact Text.takeWhile_ne_append whole rest
  have kept : root.toList.rdropWhile (· == '/') = root.toList := by
    rw [List.rdropWhile_eq_self_iff]
    intro filled slash
    exact ended (List.getLast?_eq_some_getLast filled ▸ congrArg some (by simpa using slash))
  have stripped : client.basePath =
      ((shown.getD "/").toList.takeWhile (· != '?')).rdropWhile (· == '/') := by
    rw [← target?_of_shows shows]
    rfl
  rw [stripped, path, List.rdropWhile, List.reverse_append, List.dropWhile_append_of_pos]
  · exact kept
  · intro c member
    simpa using closing c (List.mem_reverse.mp member)

theorem placed_of_places {path target : String} (places : client.Places (some path) target) :
    target = client.placed path := by
  unfold placed
  cases places with
  | behind base outside =>
    rw [← basePath_of_root base, ← List.isPrefixOf_iff_prefix] at outside
    rw [if_neg outside, String.ofList_append, String.ofList_toList, basePath_of_root base,
      String.ofList_toList]
  | inside base inside =>
    rw [← basePath_of_root base, ← List.isPrefixOf_iff_prefix] at inside
    rw [if_pos inside]

/-- A request asks for an address if and only if it is what the client makes of it, whatever token
it bears. -/
theorem asks_iff {request : Request} :
    client.Asks uri request ↔
      ∃ authorization, request = { client.request uri with authorization } := by
  constructor
  · obtain ⟨_, _, target, authorization⟩ := request
    rintro ⟨rfl, rfl, shown, shows, places⟩
    refine ⟨authorization, ?_⟩
    have same : target = (client.request uri).target := by
      rw [Client.request, target?_of_shows shows]
      cases shown with
      | some path => exact placed_of_places places
      | none =>
        cases places with
        | own base =>
          rw [target?_of_shows base]
          rfl
    rw [same]
    rfl
  · rintro ⟨authorization, rfl⟩
    refine ⟨rfl, rfl, target? uri, shows_target? uri, ?_⟩
    unfold request
    cases target? uri with
    | some target => exact places_placed client target
    | none => exact .own (shows_target? client.base)

theorem asks_request (client : Client) (uri : Uri) : client.Asks uri (client.request uri) :=
  asks_iff.mpr ⟨_, rfl⟩

/-- A base with a path and a query, and a path with a fragment. -/
example :
    let base : Uri := { scheme := some "http", authority := some "h", target := some "/api//?q" }
    (request { base, token := none } (.ofPath "/repos/o#r/s/pulls/7")).target =
      "/api/repos/o" := by
  decide +kernel

end Remote.Client

end DependencyLinks
