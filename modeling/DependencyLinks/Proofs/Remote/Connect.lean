import DependencyLinks.Proofs.Uri.Web
import DependencyLinks.Remote.Client

/-! Connecting to an API on the web. Its base was read as a URL and is read again as an address,
which has a bound and is narrower about hosts. -/

namespace DependencyLinks

theorem Locator.read_of_make {apiBase : String} {owner : Owner} {repository : RepositoryName}
    {number : PullRequestNumber} {locator : Locator}
    (located : make apiBase owner repository number = .ok locator) :
    Url.read apiBase = .ok locator.apiBase := by
  unfold make at located
  split at located
  · cases located
  next found =>
    split at located
    · cases located
      exact found
    · cases located

namespace Remote.Client

/-- What connecting to a URL on the web comes to. Double quotes, grave accents and braces may stand in
its host and in no address. -/
def reached (token : Option AccessToken) (url : Url) : Except Failure Client :=
  if Uri.capacity < url.text.utf8ByteSize then .error (.invalidUrl Uri.Fault.tooLong.message)
  else if url.hostText.any Uri.odd then .error (.invalidUrl Uri.Fault.character.message)
  else .ok { base := url.address, token }

section

variable {locator : Locator} (scheme : locator.apiBase.scheme ∈ ["http", "https"])

include scheme

theorem connect_of_web {authority : Url.Authority} {segments : List String}
    (web : locator.apiBase.Web authority segments) (token : Option AccessToken) :
    connect token locator = reached token locator.apiBase := by
  have named : ∀ scheme ∈ ["http", "https"],
      scheme.toList.all Uri.schemeChar = true ∧ scheme.toList.length ≤ 64 := by decide
  obtain ⟨letters, short⟩ := named _ scheme
  rw [List.all_eq_true] at letters
  unfold connect reached
  split_ifs with long foreign
  · rw [Uri.read_of_tooLong long]
  · rw [web.read_text letters short (by omega), if_pos foreign]
  · rw [web.read_text letters short (by omega), if_neg foreign]

theorem exists_web_of_make {apiBase : String} {owner : Owner} {repository : RepositoryName}
    {number : PullRequestNumber}
    (located : Locator.make apiBase owner repository number = .ok locator) :
    ∃ authority segments, locator.apiBase.Web authority segments := by
  have kinds : ∀ scheme ∈ ["http", "https"], Url.SchemeKind.of scheme = .web := by decide
  exact Url.web_of_read (Locator.read_of_make located) (kinds _ scheme)

end

/-- An accepted base can be connected to, unless it is too long or its host is odd. The second half
does not ask how the base was read, so that the name of its host may be an international one. -/
theorem connect_eq_reached (token : Option AccessToken) :
    (∀ (apiBase : String) (owner : Owner) (repository : RepositoryName)
        (number : PullRequestNumber) (locator : Locator),
      Locator.make apiBase owner repository number = .ok locator →
      locator.apiBase.scheme ∈ ["http", "https"] →
      connect token locator = reached token locator.apiBase) ∧
    ∀ (locator : Locator) (authority : Url.Authority) (segments : List String),
      locator.apiBase.Web authority segments →
      locator.apiBase.scheme ∈ ["http", "https"] →
      connect token locator = reached token locator.apiBase := by
  constructor
  · intro apiBase owner repository number locator located scheme
    obtain ⟨authority, segments, web⟩ := exists_web_of_make scheme located
    exact connect_of_web scheme web token
  · intro locator authority segments web scheme
    exact connect_of_web scheme web token

private def locatorAt (apiBase : Url) : Locator where
  apiBase
  owner := ⟨"o"⟩
  repository := ⟨"r"⟩
  number := ⟨1, by decide⟩

private def loopback : Url where
  scheme := "https"
  place := .path (some {
      username := "u"
      password := "p"
      host := some (.ipv6 [0, 0, 0, 0, 0, 0, 0, 1])
      port := some 8080 })
    ["a%20b", "c"]
  query := some "y\x60"
  fragment := some "z"

private def international : Url where
  scheme := "http"
  place := .path (some { host := some (.name "xn--bcher-kva.example") }) [""]

theorem connect_eq_reached_loopback :
    Locator.make "https:u:p@[::1]:8080\\a b/./d/../c?y\x60#z" ⟨"o"⟩ ⟨"r"⟩ ⟨1, by decide⟩ =
        .ok (locatorAt loopback) ∧
      connect none (locatorAt loopback) = .ok {
        base := {
          scheme := some "https"
          authority := some "u:p@[::1]:8080"
          target := some "/a%20b/c?y\x60" }
        token := none } ∧
      (∃ authority segments, international.Web authority segments) ∧
      connect none (locatorAt international) = .ok {
        base := {
          scheme := some "http"
          authority := some "xn--bcher-kva.example"
          target := some "/" }
        token := none } := by
  obtain ⟨accepted, general⟩ := connect_eq_reached none
  have located : Locator.make "https:u:p@[::1]:8080\\a b/./d/../c?y\x60#z" ⟨"o"⟩ ⟨"r"⟩
      ⟨1, by decide⟩ = .ok (locatorAt loopback) := by decide +kernel
  have web : international.Web { host := some (.name "xn--bcher-kva.example") } [""] := {
    place := rfl
    sound := {
      username := nofun
      password := nofun
      hosted := ⟨_, rfl, .name (by decide) (by decide)⟩ }
    rooted := by decide
    segments := by simp [Url.Settled]
    query := nofun }
  refine ⟨located, ?_, ⟨_, _, web⟩, ?_⟩
  · rw [accepted _ _ _ _ _ located (by decide)]
    decide +kernel
  · rw [general (locatorAt international) _ _ web (by decide)]
    decide +kernel

private def accented : Url where
  scheme := "http"
  place := .path (some { host := some (.name "a\x60b") }) [""]

theorem connect_accented :
    Locator.make "http://a\x60b/" ⟨"o"⟩ ⟨"r"⟩ ⟨1, by decide⟩ = .ok (locatorAt accented) ∧
      accented.scheme = "http" ∧
      accented.text.utf8ByteSize ≤ Uri.capacity ∧
      connect none (locatorAt accented) = .error (.invalidUrl "invalid uri character") := by
  decide +kernel

end Remote.Client

end DependencyLinks
