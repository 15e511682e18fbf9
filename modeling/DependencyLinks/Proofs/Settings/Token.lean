import DependencyLinks.Proofs.Scan.Dialogue
import DependencyLinks.Proofs.Settings.Precedence

/-! The token of a scan, from all that can give one. Of what is configured one value counts, even a
blank one. Two variables stand behind it, and among these three a blank text is passed over. -/

namespace DependencyLinks.Settings

section

variable {settings : Settings} {environment : Variables} {rank : Option String}
variable {token : AccessToken}

/-- What may be the token, in the order it is tried. -/
def tokenRanks (settings : Settings) (environment : Variables) : List (Option String) :=
  [settings.token, textOf? environment "GH_TOKEN", textOf? environment "GITHUB_TOKEN"]

/-- There is no text, or a blank one. -/
def Passed (rank : Option String) : Prop :=
  ∀ text, rank = some text → Text.Blank text

def tokenOf? (rank : Option String) : Option AccessToken :=
  rank.bind fun text => (nonblank? text).map AccessToken.mk

theorem tokenOf?_eq_none_iff : tokenOf? rank = none ↔ Passed rank := by
  cases rank with
  | none => simp [tokenOf?, Passed]
  | some text => simp [tokenOf?, Passed, nonblank?_eq_none_iff]

theorem tokenOf?_eq_some_iff :
    tokenOf? rank = some token ↔ ∃ text, rank = some text ∧ Text.Trims text token.text := by
  simp only [tokenOf?, Option.bind_eq_some_iff, Option.map_eq_some_iff, nonblank?_eq_some_iff]
  constructor
  · rintro ⟨text, found, kept, trims, rfl⟩
    exact ⟨text, found, trims⟩
  · rintro ⟨text, found, trims⟩
    exact ⟨text, found, token.text, trims, rfl⟩

theorem resolveToken_eq_findSome? (settings : Settings) (environment : Variables) :
    settings.resolveToken environment = (settings.tokenRanks environment).findSome? tokenOf? := by
  have tried : settings.tokenCandidates environment =
      (settings.tokenRanks environment).filterMap id := by
    rw [tokenCandidates, tokenVariables, tokenRanks]
    cases settings.token <;> simp [List.filterMap_cons]
  simp only [resolveToken, tried, AccessToken.make_eq, toOption_partOf]
  rw [← List.head?_filterMap, List.filterMap_filterMap, List.head?_filterMap]
  rfl

theorem resolveToken_eq_some_iff :
    settings.resolveToken environment = some token ↔
      ∃ before text after, settings.tokenRanks environment = before ++ some text :: after ∧
        (∀ rank ∈ before, Passed rank) ∧ Text.Trims text token.text := by
  rw [resolveToken_eq_findSome?, List.findSome?_eq_some_iff]
  simp only [tokenOf?_eq_none_iff, tokenOf?_eq_some_iff]
  constructor
  · rintro ⟨before, rank, after, ranks, ⟨text, rfl, trims⟩, passed⟩
    exact ⟨before, text, after, ranks, passed, trims⟩
  · rintro ⟨before, text, after, ranks, passed, trims⟩
    exact ⟨before, some text, after, ranks, ⟨text, rfl, trims⟩, passed⟩

theorem resolveToken_eq_none_iff :
    settings.resolveToken environment = none ↔
      ∀ rank ∈ settings.tokenRanks environment, Passed rank := by
  rw [resolveToken_eq_findSome?, List.findSome?_eq_none_iff]
  simp only [tokenOf?_eq_none_iff]

/-- A rank is tried only if those in front of it are passed over. -/
theorem resolveToken_congr {settings' : Settings} {environment' : Variables}
    (same : settings'.token = settings.token)
    (first : Passed settings.token →
      textOf? environment' "GH_TOKEN" = textOf? environment "GH_TOKEN")
    (second : Passed settings.token → Passed (textOf? environment "GH_TOKEN") →
      textOf? environment' "GITHUB_TOKEN" = textOf? environment "GITHUB_TOKEN") :
    settings'.resolveToken environment' = settings.resolveToken environment := by
  simp only [resolveToken_eq_findSome?, tokenRanks, same, List.findSome?_cons]
  cases configured : tokenOf? settings.token with
  | some token => rfl
  | none =>
  have passed := tokenOf?_eq_none_iff.mp configured
  rw [first passed]
  cases next : tokenOf? (textOf? environment "GH_TOKEN") with
  | some token => rfl
  | none => rw [second passed (tokenOf?_eq_none_iff.mp next)]

/-- All requests of a scan bear its token. -/
theorem authorization_of_scan {number : Nat} {server : Remote.Server} {request : Remote.Request}
    (member : request ∈ ((settings.scan environment number).run { server }).state.requests) :
    request.authorization =
      (settings.resolveToken environment).map fun token => "Bearer " ++ token.text := by
  cases found : Check.first? settings number with
  | some failure =>
    rw [(run_scan_of_first?_some environment { server } found).2] at member
    cases member
  | none =>
    obtain ⟨locator, pattern, client, -, connected, -, state⟩ :=
      links_of_first?_none environment server found
    rw [state] at member
    obtain ⟨uri, rfl⟩ := (Remote.dialogue_links client locator pattern server).made request member
    rw [← (Remote.Client.parts_of_connect connected).2]
    rfl

theorem textOf?_eq_some_iff {name text : String} :
    textOf? environment name = some text ↔
      environment.lookup name = some (RawText.ofString text) := by
  simp only [textOf?, Option.bind_eq_some_iff, RawText.text?_eq_some_iff]
  simp

end

section

variable {flags flags' : List RawText} {surroundings surroundings' : Surroundings}
variable {settings settings' : Settings}

/-- Other sources say the same of the token as far as they are asked. Where one source settles the
matter, those behind it are free. -/
structure SameToken (sources : Sources flags surroundings)
    (others : Sources flags' surroundings') : Prop where
  argument : others.pairs.lookup .token = sources.pairs.lookup .token
  set : sources.pairs.lookup .token = none →
    Environment.given? surroundings'.environment .token =
      Environment.given? surroundings.environment .token
  filed : sources.pairs.lookup .token = none →
    Environment.given? surroundings.environment .token = none →
    others.filed? .token = sources.filed? .token
  first : (∀ text, sources.winner .token = some (.string text) → Text.Blank text) →
    textOf? surroundings'.environment "GH_TOKEN" = textOf? surroundings.environment "GH_TOKEN"
  second : (∀ text, sources.winner .token = some (.string text) → Text.Blank text) →
    Passed (textOf? surroundings.environment "GH_TOKEN") →
    textOf? surroundings'.environment "GITHUB_TOKEN" =
      textOf? surroundings.environment "GITHUB_TOKEN"

theorem SameToken.winner_eq {sources : Sources flags surroundings}
    {others : Sources flags' surroundings'} (same : SameToken sources others) :
    others.winner .token = sources.winner .token := by
  unfold Sources.winner
  rw [same.argument]
  cases argument : sources.pairs.lookup .token with
  | some text => rfl
  | none =>
  rw [same.set argument]
  cases set : Environment.given? surroundings.environment .token with
  | some value => rfl
  | none => rw [same.filed argument set]

/-- Where the token of a scan comes from. -/
structure TokenFrom (sources : Sources flags surroundings) (settings : Settings) : Prop where
  configured : sources.winner .token = settings.token.map Json.string
  found : ∀ token, settings.resolveToken surroundings.environment = some token ↔
    ∃ before text after,
      settings.tokenRanks surroundings.environment = before ++ some text :: after ∧
        (∀ rank ∈ before, Passed rank) ∧ Text.Trims text token.text
  missing : settings.resolveToken surroundings.environment = none ↔
    ∀ rank ∈ settings.tokenRanks surroundings.environment, Passed rank
  /-- A blank value is as good as none for the variables that stand behind it. -/
  hidden : ∀ text, sources.winner .token = some (.string text) → Text.Blank text →
    settings.resolveToken surroundings.environment =
      { settings with token := none }.resolveToken surroundings.environment
  /-- These variables count if their bytes are text. -/
  read : ∀ name text, textOf? surroundings.environment name = some text ↔
    surroundings.environment.lookup name = some (RawText.ofString text)
  sent : ∀ number server,
    ∀ request ∈ ((settings.scan surroundings.environment number).run { server }).state.requests,
      request.authorization =
        (settings.resolveToken surroundings.environment).map fun token => "Bearer " ++ token.text
  settled : ∀ (flags' : List RawText) (surroundings' : Surroundings) (settings' : Settings)
    (others : Sources flags' surroundings'), SameToken sources others →
    load flags' surroundings' = .ok settings' →
    settings'.resolveToken surroundings'.environment =
      settings.resolveToken surroundings.environment
  /-- What the free sources say of the token does not keep the settings from being loaded. -/
  harmless : ∀ (flags' : List RawText) (surroundings' : Surroundings)
    (others : Sources flags' surroundings'), SameToken sources others →
    (∀ field, field ≠ .token → others.winner field = sources.winner field) →
    load flags' surroundings' = .ok settings

/-- Wherever settings are loaded from, one of three texts is the token of a scan: the one text that
counts of what is configured, and two variables behind it. The first that is not blank is taken,
without the white space around it. Without any there is no token. Nothing behind that text makes a
difference. -/
theorem token_of_load (loaded : load flags surroundings = .ok settings) :
    ∃ sources : Sources flags surroundings, TokenFrom sources settings := by
  obtain ⟨sources⟩ := exists_sources_of_load loaded
  have configured : sources.winner .token = settings.token.map Json.string :=
    sources.load_eq_ok_iff.mp loaded .token
  have said : ∀ text, sources.winner .token = some (.string text) ↔ settings.token = some text := by
    intro text
    rw [configured]
    cases settings.token <;> simp
  refine ⟨sources, configured, fun token => resolveToken_eq_some_iff, resolveToken_eq_none_iff,
    ?hidden, fun name text => textOf?_eq_some_iff,
    fun number server request => authorization_of_scan, ?settled, ?harmless⟩
  case hidden =>
    intro text won blank
    have token := (said text).mp won
    simp only [resolveToken_eq_findSome?, tokenRanks, List.findSome?_cons, token,
      tokenOf?_eq_none_iff.mpr fun _ same => Option.some.inj same ▸ blank]
    rfl
  case settled =>
    intro flags' surroundings' settings' others same loaded'
    have token : settings'.token = settings.token := by
      have won := same.winner_eq
      rw [others.load_eq_ok_iff.mp loaded' .token, configured] at won
      exact Option.map_injective (fun _ _ => Json.string.inj) won
    have blank : Passed settings.token →
        ∀ text, sources.winner .token = some (.string text) → Text.Blank text :=
      fun passed text won => passed text ((said text).mp won)
    exact resolveToken_congr token (fun passed => same.first (blank passed))
      fun passed => same.second (blank passed)
  case harmless =>
    intro flags' surroundings' others same apart
    rw [← loaded]
    apply sources.load_eq_of_winner_eq
    intro field
    by_cases token : field = .token
    · exact token ▸ same.winner_eq
    · exact apart field token

end

private def blankFlags : List RawText :=
  ["downstream-prs", "--token", " "].map RawText.ofString

/-- The blank argument stands over a variable and a file, and a variable that is no text is next. -/
private def tokenSurroundings : Surroundings where
  environment :=
    [("DOWNSTREAM_PRS_TOKEN", RawText.ofString "set"), ("GH_TOKEN", [0xFF]),
      ("GITHUB_TOKEN", RawText.ofString " last\n")]
  workingDirectory := "/w"
  file? path :=
    if path = "/w/.downstream-prs.toml" then some (RawText.ofString "token = \"filed\"\n")
    else none

theorem token_of_load_blank :
    load blankFlags tokenSurroundings = .ok { token := some " " } ∧
      (∃ sources : Sources blankFlags tokenSurroundings,
        TokenFrom sources { token := some " " }) ∧
      ({ token := some " " } : Settings).resolveToken tokenSurroundings.environment =
        some ⟨"last"⟩ := by
  have ordered : Environment.sorted tokenSurroundings.environment =
      tokenSurroundings.environment := List.mergeSort_of_pairwise (by decide +kernel)
  have loaded : load blankFlags tokenSurroundings = .ok { token := some " " } := by
    unfold load loadFrom Environment.layer
    rw [ordered]
    decide +kernel
  exact ⟨loaded, token_of_load loaded, by decide +kernel⟩

end DependencyLinks.Settings
