import DependencyLinks.Proofs.Settings.Given
import Mathlib.Data.List.Induction
import Mathlib.Data.List.Nodup

/-! Layers upon each other: the last one that mentions a key decides what comes of it. -/

namespace DependencyLinks

namespace Json

/-- A value seen from outside: what an object holds does not count. -/
def surface : Json → Json
  | .object _ => .object []
  | value => value

/-- What the last layer that mentions a key says of it. -/
def mention (layers : List Json) (key : String) : Option Json :=
  layers.reverse.findSome? fun layer => last? layer.members key

theorem lookup_cons_eq_if (members : List (String × Json)) (own key : String) (value : Json) :
    ((own, value) :: members).lookup key =
      if own = key then some value else members.lookup key := by
  by_cases same : own = key
  · subst same
    simp
  · have apart : key ≠ own := fun equal => same equal.symm
    rw [List.lookup_cons, beq_false_of_ne apart, if_neg same]

theorem lookup_put (members : List (String × Json)) (key other : String) (value : Json) :
    (put members key value).lookup other =
      if key = other then some value else members.lookup other := by
  induction members with
  | nil => exact lookup_cons_eq_if [] key other value
  | cons member members ih =>
    obtain ⟨own, old⟩ := member
    unfold put
    by_cases found : own = key
    · subst found
      simp only [lookup_cons_eq_if, if_true]
      split <;> rfl
    · simp only [if_neg found, lookup_cons_eq_if, ih]
      split
      next same =>
        subst same
        rw [if_neg (Ne.symm found)]
      · rfl

theorem last?_cons (own key : String) (value : Json) (members : List (String × Json)) :
    last? ((own, value) :: members) key =
      (last? members key).or (if own = key then some value else none) := by
  unfold last? values
  rw [List.filterMap_cons]
  by_cases same : own = key
  · simp only [if_pos same, List.getLast?_cons]
    cases (members.filterMap _).getLast? <;> rfl
  · simp only [if_neg same, Option.or_none]

theorem surface_overlay (below value : Json) : (overlay below value).surface = value.surface := by
  cases value <;> simp [overlay, surface]

/-- From outside, a key has the last value that is laid over it, and else the one it had. -/
theorem map_surface_lookup_overlayMembers (below above : List (String × Json)) (key : String) :
    ((overlayMembers below above).lookup key).map surface =
      ((last? above key).or (below.lookup key)).map surface := by
  induction above generalizing below with
  | nil => simp [overlayMembers, last?, values]
  | cons member above ih =>
    obtain ⟨own, value⟩ := member
    rw [overlayMembers, ih, lookup_put, last?_cons]
    cases last? above key with
    | some later => rfl
    | none =>
      by_cases same : own = key
      · simp [same, surface_overlay]
      · simp [same]

theorem put_ne_nil (members : List (String × Json)) (key : String) (value : Json) :
    put members key value ≠ [] := by
  unfold put
  split
  · nofun
  · split <;> nofun

theorem overlayMembers_eq_nil_iff {below above : List (String × Json)} :
    overlayMembers below above = [] ↔ below = [] ∧ above = [] := by
  induction above generalizing below with
  | nil => simp [overlayMembers]
  | cons member above ih =>
    obtain ⟨key, value⟩ := member
    rw [overlayMembers, ih]
    simp [put_ne_nil]

theorem mention_append (layers : List Json) (layer : Json) (key : String) :
    mention (layers ++ [layer]) key = (last? layer.members key).or (mention layers key) := by
  unfold mention
  rw [List.reverse_append, List.reverse_singleton, List.singleton_append, List.findSome?_cons]
  cases last? layer.members key <;> rfl

theorem map_fst_put (members : List (String × Json)) (key : String) (value : Json) :
    (put members key value).map Prod.fst =
      if key ∈ members.map Prod.fst then members.map Prod.fst
      else members.map Prod.fst ++ [key] := by
  induction members with
  | nil => rfl
  | cons member members ih =>
    obtain ⟨own, old⟩ := member
    unfold put
    by_cases same : own = key
    · simp [same]
    · have apart : key ≠ own := fun equal => same equal.symm
      simp only [if_neg same, List.map_cons, ih, List.mem_cons, apart, false_or]
      split <;> rfl

theorem nodup_put {members : List (String × Json)} (once : (members.map Prod.fst).Nodup)
    (key : String) (value : Json) : ((put members key value).map Prod.fst).Nodup := by
  rw [map_fst_put]
  split
  · exact once
  next new => exact List.nodup_append.mpr ⟨once, List.nodup_singleton key, by grind⟩

theorem nodup_overlayMembers {below : List (String × Json)}
    (once : (below.map Prod.fst).Nodup) (above : List (String × Json)) :
    ((overlayMembers below above).map Prod.fst).Nodup := by
  induction above generalizing below with
  | nil => rwa [overlayMembers]
  | cons member above ih =>
    obtain ⟨key, value⟩ := member
    rw [overlayMembers]
    exact ih (nodup_put once _ _)

theorem last?_eq_lookup {members : List (String × Json)} (once : (members.map Prod.fst).Nodup)
    (key : String) : last? members key = members.lookup key := by
  induction members with
  | nil => rfl
  | cons member members ih =>
    obtain ⟨own, value⟩ := member
    obtain ⟨new, once⟩ := List.nodup_cons.mp once
    rw [last?_cons, ih once, lookup_cons_eq_if]
    by_cases same : own = key
    · subst same
      have absent : members.lookup own = none := by
        rw [List.lookup_eq_none_iff]
        intro member present
        rw [bne_iff_ne]
        intro same
        exact new (List.mem_map.mpr ⟨member, present, same.symm⟩)
      simp [absent]
    · simp [same]

theorem mem_of_last? {members : List (String × Json)} {key : String} {value : Json}
    (found : last? members key = some value) : (key, value) ∈ members := by
  obtain ⟨⟨own, value'⟩, present, same⟩ := List.mem_filterMap.mp (List.mem_of_getLast? found)
  obtain ⟨rfl, rfl⟩ : own = key ∧ value' = value := by simpa using same
  exact present

end Json

namespace Settings

open Json

theorem stack_append (layers : List Json) (layer : Json) :
    stack (layers ++ [layer]) = overlayMembers (stack layers) layer.members := by
  simp [stack]

/-- From outside, the last mention of a key is all that layers leave of it. -/
theorem map_surface_lookup_stack (layers : List Json) (key : String) :
    ((stack layers).lookup key).map surface = (mention layers key).map surface := by
  induction layers using List.reverseRecOn with
  | nil => rfl
  | append_singleton layers layer ih =>
    rw [stack_append, mention_append, map_surface_lookup_overlayMembers, Option.map_or,
      Option.map_or, ih]

theorem text?_map_surface (value : Option Json) : text? (value.map surface) = text? value := by
  rcases value with _ | value
  · rfl
  · cases value <;> rfl

/-- Whether a key is a text is up to its last mention. -/
theorem text?_lookup_stack (layers : List Json) (key : String) :
    text? ((stack layers).lookup key) = text? (mention layers key) := by
  rw [← text?_map_surface, map_surface_lookup_stack, text?_map_surface]

theorem nodup_stack (layers : List Json) : ((stack layers).map Prod.fst).Nodup := by
  induction layers using List.reverseRecOn with
  | nil => exact List.nodup_nil
  | append_singleton layers layer ih =>
    rw [stack_append]
    exact nodup_overlayMembers ih _

theorem stack_eq_nil_iff {layers : List Json} :
    stack layers = [] ↔ ∀ layer ∈ layers, layer.members = [] := by
  induction layers using List.reverseRecOn with
  | nil => simp [stack]
  | append_singleton layers layer ih =>
    rw [stack_append, overlayMembers_eq_nil_iff, ih, List.forall_mem_append,
      List.forall_mem_singleton]

theorem isObject_iff {value : Json} : isObject value = true ↔ ∃ members, value = .object members := by
  cases value <;> simp [isObject]

/-- What a mention makes of a field. -/
inductive Decides : Option Json → Option String → Prop where
  | absent : Decides none none
  | null : Decides (some .null) none
  | text (s : String) : Decides (some (.string s)) (some s)

theorem text?_eq_some_iff {value : Option Json} {text : Option String} :
    text? value = some text ↔ Decides value text := by
  constructor
  · intro read
    unfold text? at read
    split at read
    · cases read
      exact .absent
    · cases read
      exact .null
    · cases read
      exact .text _
    · cases read
  · rintro (_ | _ | s) <;> rfl

/-- A mention decides unless it is neither a text nor null. -/
theorem exists_decides_iff {mention : Option Json} :
    (∃ text, Decides mention text) ↔
      ∀ value, mention = some value → value = .null ∨ ∃ text, value = .string text := by
  constructor
  · rintro ⟨text, _ | _ | s⟩ value same
    · cases same
    · cases same
      exact .inl rfl
    · cases same
      exact .inr ⟨s, rfl⟩
  · intro sound
    rcases mention with _ | value
    · exact ⟨none, .absent⟩
    · rcases sound value rfl with rfl | ⟨text, rfl⟩
      · exact ⟨none, .null⟩
      · exact ⟨some text, .text text⟩

theorem ofLayers?_eq_some_iff {layers : List Json} {settings : Settings} :
    ofLayers? layers = some settings ↔
      (∀ layer ∈ layers, ∃ members, layer = .object members) ∧
      (∃ layer ∈ layers, layer.members ≠ []) ∧
      ∀ field : Field, Decides (mention layers field.key) (settings.get field) := by
  have objects : layers.all isObject = true ↔
      ∀ layer ∈ layers, ∃ members, layer = .object members := by
    simp only [List.all_eq_true, isObject_iff]
  have filled : (!(stack layers).isEmpty) = true ↔ ∃ layer ∈ layers, layer.members ≠ [] := by
    simp only [Bool.not_eq_true', List.isEmpty_eq_false_iff, ne_eq, stack_eq_nil_iff,
      not_forall, exists_prop]
  rw [ofLayers?, ← objects, ← filled, ← and_assoc, ← Bool.and_eq_true]
  split
  next sound =>
    simp only [sound, true_and, ofMembers?_eq_some_iff, text?_lookup_stack, text?_eq_some_iff]
  next unsound => simp [unsound]

/-- Layers make settings if all are objects, one of them has a key, and the last mention of each
field is a text or null. The field is that text, or absent if the last mention is null or there is
none. So nothing else that layers say plays a part, but for the one key that some layer has to have:
not what was said of a field before, nor what is said of any other key. -/
theorem ofLayers?_of_mention (layers : List Json) :
    ((∃ settings, ofLayers? layers = some settings) ↔
      (∀ layer ∈ layers, ∃ members, layer = .object members) ∧
      (∃ layer ∈ layers, layer.members ≠ []) ∧
      ∀ (field : Field) (value : Json), mention layers field.key = some value →
        value = .null ∨ ∃ text, value = .string text) ∧
    (∀ settings, ofLayers? layers = some settings →
      ∀ field : Field, Decides (mention layers field.key) (settings.get field)) ∧
    ∀ others : List Json,
      ((∀ layer ∈ others, ∃ members, layer = .object members) ↔
        ∀ layer ∈ layers, ∃ members, layer = .object members) →
      ((∃ layer ∈ others, layer.members ≠ []) ↔ ∃ layer ∈ layers, layer.members ≠ []) →
      (∀ field : Field, mention others field.key = mention layers field.key) →
      ofLayers? others = ofLayers? layers := by
  refine ⟨⟨?_, ?_⟩, ?_, ?_⟩
  · rintro ⟨settings, made⟩
    obtain ⟨objects, filled, decides⟩ := ofLayers?_eq_some_iff.mp made
    exact ⟨objects, filled, fun field => exists_decides_iff.mp ⟨_, decides field⟩⟩
  · rintro ⟨objects, filled, sound⟩
    choose text decides using fun field => exists_decides_iff.mpr (sound field)
    refine ⟨ofFields text, ofLayers?_eq_some_iff.mpr ⟨objects, filled, ?_⟩⟩
    simpa only [get_ofFields] using decides
  · intro settings made
    exact (ofLayers?_eq_some_iff.mp made).2.2
  · intro others objects filled same
    apply Option.ext
    intro settings
    rw [ofLayers?_eq_some_iff, ofLayers?_eq_some_iff, objects, filled]
    simp only [same]

/-- Layers that say much besides what counts. -/
private def shadowed : List Json :=
  [.object [("owner", .object [("a", .null)]), ("repo", .numeral "1.5"), ("x", .bool true)],
    .object [("owner", .string "o")], .object [("repo", .null)]]

private def plain : List Json :=
  [.object [("repo", .null), ("owner", .string "o")]]

theorem ofLayers?_of_mention_shadowed :
    ((∀ layer ∈ plain, ∃ members, layer = .object members) ↔
      ∀ layer ∈ shadowed, ∃ members, layer = .object members) ∧
    ((∃ layer ∈ plain, layer.members ≠ []) ↔ ∃ layer ∈ shadowed, layer.members ≠ []) ∧
    (∀ field : Field, mention plain field.key = mention shadowed field.key) ∧
    ofLayers? plain = ofLayers? shadowed ∧ ∃ settings, ofLayers? shadowed = some settings := by
  have objects : ∀ layer ∈ shadowed, ∃ members, layer = .object members := by simp [shadowed]
  have objects' : ∀ layer ∈ plain, ∃ members, layer = .object members := by simp [plain]
  have filled : ∃ layer ∈ shadowed, layer.members ≠ [] := by simp [shadowed, members]
  have filled' : ∃ layer ∈ plain, layer.members ≠ [] := by simp [plain, members]
  have same : ∀ field : Field, mention plain field.key = mention shadowed field.key := by
    intro field
    cases field <;> rfl
  have sound : ∀ (field : Field) (value : Json), mention shadowed field.key = some value →
      value = .null ∨ ∃ text, value = .string text := by
    intro field
    cases field <;> rintro value ⟨⟩
    · exact .inr ⟨"o", rfl⟩
    · exact .inl rfl
  have flat := ofLayers?_of_mention shadowed
  exact ⟨iff_of_true objects' objects, iff_of_true filled' filled, same,
    flat.2.2 plain (iff_of_true objects' objects) (iff_of_true filled' filled) same,
    flat.1.mpr ⟨objects, filled, sound⟩⟩

end Settings

end DependencyLinks
