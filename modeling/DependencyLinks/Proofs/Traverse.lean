import Mathlib.Data.List.Forall2

/-! Lists read element by element, where one element can spoil the whole. -/

namespace DependencyLinks

variable {α β : Type} {f : α → Option β} {items : List α}

theorem mapM_eq_some_iff {results : List β} :
    items.mapM f = some results ↔
      List.Forall₂ (fun item result => f item = some result) items results := by
  induction items generalizing results with
  | nil => cases results <;> simp
  | cons item items ih =>
    simp only [List.mapM_cons, bind, Option.bind_eq_some_iff, pure, Option.some.injEq]
    constructor
    · rintro ⟨result, first, rest, later, rfl⟩
      exact .cons first (ih.mp later)
    · rintro (_ | ⟨first, later⟩)
      exact ⟨_, first, _, ih.mpr later, rfl⟩

theorem mapM_eq_none_iff : items.mapM f = none ↔ ∃ item ∈ items, f item = none := by
  induction items with
  | nil => simp
  | cons item items ih =>
    cases first : f item with
    | none => simp [List.mapM_cons, first]
    | some result =>
      simp only [List.mem_cons, exists_eq_or_imp, first, reduceCtorEq, false_or, ← ih,
        List.mapM_cons]
      cases items.mapM f <;> simp

end DependencyLinks
