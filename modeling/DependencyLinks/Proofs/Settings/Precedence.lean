import DependencyLinks.Proofs.Settings.Environment
import DependencyLinks.Settings.Load

/-! Settings from all sources, field by field: arguments over variables over the file. -/

namespace DependencyLinks.Settings

open Json

theorem nodup_of_read? {arguments : List RawText} {pairs : List (Field × String)}
    (read : Arguments.read? arguments = some pairs) : (pairs.map Prod.fst).Nodup := by
  obtain ⟨all, -, checked⟩ := Option.bind_eq_some_iff.mp read
  split at checked
  next once =>
    cases checked
    exact once
  · cases checked

theorem last?_argumentLayer {pairs : List (Field × String)} (once : (pairs.map Prod.fst).Nodup)
    (field : Field) :
    last? (argumentLayer pairs).members field.key = (pairs.lookup field).map Json.string := by
  have keys : (argumentLayer pairs).members.map Prod.fst =
      (pairs.map Prod.fst).map Field.key := by
    simp [argumentLayer, Json.members]
  have apart : ((argumentLayer pairs).members.map Prod.fst).Nodup := by
    rw [keys]
    exact once.map fun _ _ => eq_of_key_eq
  rw [last?_eq_lookup apart, lookup_argumentLayer]

/-- Sources that settings can be loaded from: the arguments are accepted, and looking for a file
does not fail. -/
structure Sources (flags : List RawText) (surroundings : Surroundings) where
  pairs : List (Field × String)
  file : Option Json
  accepted : Arguments.read? flags.tail = some pairs
  discovered : File.layer? surroundings = some file

/-- Settings are loaded from sources only. -/
theorem exists_sources_of_load {flags : List RawText} {surroundings : Surroundings}
    {settings : Settings} (loaded : load flags surroundings = .ok settings) :
    Nonempty (Sources flags surroundings) := by
  cases read : Arguments.read? flags.tail with
  | none => simp [load, loadFrom, read] at loaded
  | some pairs =>
    cases found : File.layer? surroundings with
    | none => simp [load, loadFrom, read, found] at loaded
    | some file => exact ⟨⟨pairs, file, read, found⟩⟩

namespace Sources

variable {flags : List RawText} {surroundings : Surroundings}

/-- What the file says of a field. -/
def filed? (sources : Sources flags surroundings) (field : Field) : Option Json :=
  sources.file.bind fun layer => last? layer.members field.key

/-- The value that counts for a field: the argument's, else the variable's, else the file's. -/
def winner (sources : Sources flags surroundings) (field : Field) : Option Json :=
  ((sources.pairs.lookup field).map Json.string).or
    ((Environment.given? surroundings.environment field).or (sources.filed? field))

def layers (sources : Sources flags surroundings) : List Json :=
  sources.file.toList ++
    [Environment.layer surroundings.environment, argumentLayer sources.pairs]

variable (sources : Sources flags surroundings) (field : Field)

theorem mention_layers :
    mention sources.layers field.key =
      ((sources.pairs.lookup field).map Json.string).or
        ((last? (Environment.layer surroundings.environment).members field.key).or
          (sources.filed? field)) := by
  have filed : mention sources.file.toList field.key = sources.filed? field := by
    unfold filed?
    cases sources.file with
    | none => rfl
    | some layer => exact (mention_append [] layer _).trans Option.or_none
  rw [layers, List.append_cons, mention_append, mention_append, filed,
    last?_argumentLayer (nodup_of_read? sources.accepted)]

theorem text?_lookup_layers :
    text? ((stack sources.layers).lookup field.key) = text? (sources.winner field) := by
  rw [text?_lookup_stack, mention_layers, winner, ← text?_map_surface, Option.map_or,
    Option.map_or, Environment.map_surface_last?_layer, ← Option.map_or, ← Option.map_or,
    text?_map_surface]

theorem filed?_ne_null : sources.filed? field ≠ some .null := by
  intro said
  obtain ⟨layer, found, said⟩ := Option.bind_eq_some_iff.mp said
  have discovered := sources.discovered
  rw [found] at discovered
  exact File.ne_null_of_layer? discovered (mem_of_last? said) rfl

theorem winner_ne_null : sources.winner field ≠ some .null := by
  intro won
  rcases Option.or_eq_some_iff.mp won with argument | ⟨-, won⟩
  · obtain ⟨text, -, same⟩ := Option.map_eq_some_iff.mp argument
    cases same
  · rcases Option.or_eq_some_iff.mp won with said | ⟨-, filed⟩
    · exact Environment.given?_ne_null _ field said
    · exact sources.filed?_ne_null field filed

theorem text?_winner_eq_some_iff {text : Option String} :
    text? (sources.winner field) = some text ↔ sources.winner field = text.map Json.string := by
  rw [text?_eq_some_iff]
  constructor
  · intro decides
    have sound := sources.winner_ne_null field
    revert decides sound
    generalize sources.winner field = won
    rintro (_ | _ | text) sound
    · rfl
    · exact absurd rfl sound
    · rfl
  · intro won
    rw [won]
    cases text with
    | none => exact .absent
    | some text => exact .text text

theorem loadFrom_eq : loadFrom flags surroundings =
    match ofMembers? (stack sources.layers) with
    | some settings => .ok settings
    | none => .error .value := by
  unfold loadFrom layers
  rewrite [sources.accepted, sources.discovered]
  rfl

theorem load_eq_ok_iff {settings : Settings} :
    load flags surroundings = .ok settings ↔
      ∀ field, sources.winner field = (settings.get field).map Json.string := by
  have made : load flags surroundings = .ok settings ↔
      ofMembers? (stack sources.layers) = some settings := by
    rw [load, sources.loadFrom_eq]
    cases ofMembers? (stack sources.layers) <;> simp
  rw [made, ofMembers?_eq_some_iff]
  simp only [text?_lookup_layers, text?_winner_eq_some_iff]

theorem exists_load_iff :
    (∃ settings, load flags surroundings = .ok settings) ↔
      ∀ field value, sources.winner field = some value → ∃ text, value = .string text := by
  constructor
  · rintro ⟨settings, loaded⟩ field value won
    rw [sources.load_eq_ok_iff.mp loaded field] at won
    obtain ⟨text, -, same⟩ := Option.map_eq_some_iff.mp won
    exact ⟨text, same.symm⟩
  · intro sound
    have texts : ∀ field, ∃ text : Option String, sources.winner field = text.map Json.string := by
      intro field
      cases won : sources.winner field with
      | none => exact ⟨none, rfl⟩
      | some value =>
        obtain ⟨text, rfl⟩ := sound field value won
        exact ⟨some text, rfl⟩
    choose text won using texts
    refine ⟨ofFields text, sources.load_eq_ok_iff.mpr ?_⟩
    simpa only [get_ofFields] using won

theorem load_eq_of_winner_eq {flags' : List RawText} {surroundings' : Surroundings}
    {others : Sources flags' surroundings'}
    (same : ∀ field, others.winner field = sources.winner field) :
    load flags' surroundings' = load flags surroundings := by
  have made : ofMembers? (stack others.layers) = ofMembers? (stack sources.layers) := by
    apply Option.ext
    intro settings
    rw [ofMembers?_eq_some_iff, ofMembers?_eq_some_iff]
    simp only [text?_lookup_layers, same]
  rw [load, load, others.loadFrom_eq, sources.loadFrom_eq, made]

end Sources

/-- Settings are loaded unless, for some field, the value that counts is no text. Each field is the
value that counts for it then, or absent if no source gives one. A variable that is the only one
about its field counts wherever it stands. So a value with another above it does no harm, keys of
no field never matter, and what sources say of one field leaves every other one alone. -/
theorem load_by_winner {flags : List RawText} {surroundings : Surroundings}
    (sources : Sources flags surroundings) :
    (∀ settings, load flags surroundings = .ok settings ↔
      ∀ field, sources.winner field = (settings.get field).map Json.string) ∧
    ((∃ failure, load flags surroundings = .error failure) ↔
      ∃ field value, sources.winner field = some value ∧ ∀ text, value ≠ .string text) ∧
    (∀ field, (surroundings.environment.filterMap (Environment.says? field)).length ≤ 1 →
      Environment.given? surroundings.environment field =
        (surroundings.environment.filterMap (Environment.says? field)).head?) ∧
    ∀ (flags' : List RawText) (surroundings' : Surroundings)
      (others : Sources flags' surroundings'),
      ((∀ field, others.winner field = sources.winner field) →
        load flags' surroundings' = load flags surroundings) ∧
      ∀ settings settings', load flags surroundings = .ok settings →
        load flags' surroundings' = .ok settings' →
        ∀ field, others.pairs.lookup field = sources.pairs.lookup field →
          Environment.given? surroundings'.environment field =
            Environment.given? surroundings.environment field →
          others.filed? field = sources.filed? field →
          settings'.get field = settings.get field := by
  refine ⟨fun settings => sources.load_eq_ok_iff, ?failure, ?single, ?two⟩
  case failure =>
    have loads := sources.exists_load_iff
    constructor
    · rintro ⟨failure, failed⟩
      by_contra none
      push Not at none
      obtain ⟨settings, loaded⟩ := loads.mpr none
      cases failed.symm.trans loaded
    · rintro ⟨field, value, won, other⟩
      cases result : load flags surroundings with
      | error failure => exact ⟨failure, rfl⟩
      | ok settings =>
        obtain ⟨text, same⟩ := loads.mp ⟨settings, result⟩ field value won
        exact absurd same (other text)
  case single => exact fun field => Environment.given?_of_single
  case two =>
    intro flags' surroundings' others
    refine ⟨sources.load_eq_of_winner_eq, ?_⟩
    intro settings settings' loaded loaded' field argument set file
    have same : others.winner field = sources.winner field := by
      rw [Sources.winner, Sources.winner, argument, set, file]
    rw [others.load_eq_ok_iff.mp loaded', sources.load_eq_ok_iff.mp loaded] at same
    exact Option.map_injective (fun _ _ => Json.string.inj) same

private def sampleFlags : List RawText :=
  ["downstream-prs", "--owner", "octo"].map RawText.ofString

/-- The variable for the owner is a list and the repository in the file is a number. -/
private def sampleSurroundings : Surroundings where
  environment :=
    [("DOWNSTREAM_PRS_OWNER", RawText.ofString "1,2"),
      ("downstream_prs_Repo", RawText.ofString " r ")]
  workingDirectory := "/w"
  file? path :=
    if path = "/w/.downstream-prs.toml" then
      some (RawText.ofString "repo = 5\nmarker = \"m\"\nowners = [1]\n")
    else none

theorem load_by_winner_sample :
    ∃ (sources : Sources sampleFlags sampleSurroundings) (settings : Settings),
      settings = { owner := some "octo", repository := some "r", marker := some "m" } ∧
      load sampleFlags sampleSurroundings = .ok settings ∧
      ∀ field, sources.winner field = (settings.get field).map Json.string := by
  have accepted : Arguments.read? sampleFlags.tail = some [(.owner, "octo")] := by decide +kernel
  have found : (File.layer? sampleSurroundings).isSome = true := by decide +kernel
  obtain ⟨file, discovered⟩ := Option.isSome_iff_exists.mp found
  have ordered : Environment.sorted sampleSurroundings.environment =
      sampleSurroundings.environment := List.mergeSort_of_pairwise (by decide +kernel)
  have loaded : load sampleFlags sampleSurroundings =
      .ok { owner := some "octo", repository := some "r", marker := some "m" } := by
    unfold load loadFrom Environment.layer
    rw [ordered]
    decide +kernel
  let sources : Sources sampleFlags sampleSurroundings := ⟨_, file, accepted, discovered⟩
  exact ⟨sources, _, rfl, loaded, ((load_by_winner sources).1 _).mp loaded⟩

end DependencyLinks.Settings
