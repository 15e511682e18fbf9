import DependencyLinks.Proofs.Settings.Mention
import DependencyLinks.Proofs.Settings.NullFree

/-! What environment variables say of a field: the layer of all of them, variable by variable. -/

namespace DependencyLinks.Settings

open Json

namespace Environment

/-- What a variable says of a field, if it is about that field. -/
def says? (field : Field) (entry : String × RawText) : Option Json :=
  match path? entry.1 with
  | some (key :: below) =>
    if String.ofList key = field.key then some (nest (value entry.2) below) else none
  | _ => none

/-- What the variables say of a field. Of several that do, the last name counts. -/
def given? (environment : Variables) (field : Field) : Option Json :=
  (sorted environment).reverse.findSome? (says? field)

/-- The layer that a variable makes by itself. -/
def ownLayer? (entry : String × RawText) : Option Json :=
  (path? entry.1).map (nest (value entry.2))

theorem layer_eq_stack (environment : Variables) :
    layer environment = .object (stack ((sorted environment).filterMap ownLayer?)) := by
  unfold layer stack
  rw [List.foldl_filterMap]
  congr 2
  funext below ⟨name, raw⟩
  dsimp only [ownLayer?]
  cases path? name <;> rfl

theorem path?_ne_nil (name : String) : path? name ≠ some [] := by
  unfold path?
  dsimp only
  split
  · split
    · nofun
    · intro same
      exact Text.cutAt_ne_nil _ _ (Option.some.inj same)
  · nofun

theorem last?_ownLayer? (field : Field) (entry : String × RawText) :
    ((ownLayer? entry).bind fun layer => last? layer.members field.key) =
      says? field entry := by
  unfold ownLayer? says?
  cases path : path? entry.1 with
  | none => rfl
  | some keys =>
    cases keys with
    | nil => exact absurd path (path?_ne_nil _)
    | cons key below => exact last?_cons _ _ _ []

theorem mention_ownLayers (environment : Variables) (field : Field) :
    mention ((sorted environment).filterMap ownLayer?) field.key = given? environment field := by
  unfold mention given?
  rw [← List.filterMap_reverse, ← List.head?_filterMap, List.filterMap_filterMap,
    List.head?_filterMap]
  simp only [last?_ownLayer?]

/-- From outside, the layer of all variables says of a field what the last of them does. -/
theorem map_surface_last?_layer (environment : Variables) (field : Field) :
    (last? (layer environment).members field.key).map surface =
      (given? environment field).map surface := by
  rw [layer_eq_stack, Json.members, last?_eq_lookup (nodup_stack _), map_surface_lookup_stack,
    mention_ownLayers]

/-- Where only one variable is about a field, its place does not matter. -/
theorem given?_of_single {environment : Variables} {field : Field}
    (single : (environment.filterMap (says? field)).length ≤ 1) :
    given? environment field = (environment.filterMap (says? field)).head? := by
  have perm : ((sorted environment).filterMap (says? field)).Perm
      (environment.filterMap (says? field)) := (List.mergeSort_perm _ _).filterMap _
  unfold given?
  rw [← List.head?_filterMap, List.filterMap_reverse, List.head?_reverse]
  match said : environment.filterMap (says? field), single with
  | [], _ =>
    rw [said] at perm
    rw [perm.eq_nil]
    rfl
  | [value], _ =>
    rw [said] at perm
    rw [perm.eq_singleton]
    rfl

theorem says?_ne_null (field : Field) (entry : String × RawText) :
    says? field entry ≠ some .null := by
  unfold says?
  split
  · split
    · intro same
      exact nest_ne_null (value_ne_null _) _ (Option.some.inj same)
    · nofun
  · nofun

theorem given?_ne_null (environment : Variables) (field : Field) :
    given? environment field ≠ some .null := by
  intro said
  obtain ⟨entry, -, said⟩ := List.exists_of_findSome?_eq_some said
  exact says?_ne_null field entry said

end Environment

end DependencyLinks.Settings
