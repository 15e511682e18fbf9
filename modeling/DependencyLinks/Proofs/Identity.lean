import DependencyLinks.Proofs.Text.Blank
import Mathlib.Data.List.Basic

/-! Owners, repository names and tokens are made of texts alike. They refuse the same texts and keep
the same of all others, and of what they have kept nothing more is lost. -/

namespace DependencyLinks

namespace Text

variable {s kept front back : String}

/-- What is kept of a text is kept of itself too, with any white space put around it. -/
theorem Trims.padded (trims : Trims s kept) (before : Blank front) (behind : Blank back) :
    Trims (front ++ kept ++ back) kept where
  filled := trims.filled
  first := trims.first
  last := trims.last
  around := ⟨front.toList, back.toList, by simp, before, behind⟩

/-- Whatever stands between two texts that are kept is inside, so it is kept with them. -/
theorem Trims.between {other kept' : String} (trims : Trims s kept) (trims' : Trims other kept')
    (inner : String) : Trims (kept ++ inner ++ kept') (kept ++ inner ++ kept') where
  filled := by
    rw [Ne, String.append_eq_empty_iff, String.append_eq_empty_iff]
    exact fun nothing => trims.filled nothing.1.1
  first := by
    rw [String.append_assoc, String.toList_append,
      List.head?_append_of_ne_nil _ trims.toList_ne_nil]
    exact trims.first
  last := by
    rw [String.toList_append, List.getLast?_append_of_ne_nil _ trims'.toList_ne_nil]
    exact trims'.last
  around := ⟨[], [], by simp, nofun, nofun⟩

end Text

section

variable {α : Type} {wrap : String → α} {blank failure : Failure} {s kept : String}

/-- What is left of a text, as a part of some kind. Owners, repository names and tokens are all made
so. -/
def partOf (wrap : String → α) (blank : Failure) (s : String) : Except Failure α :=
  match nonblank? s with
  | some kept => .ok (wrap kept)
  | none => .error blank

theorem Owner.make_eq (s : String) : make s = partOf mk .blankRepository s := by
  unfold make partOf
  cases nonblank? s <;> rfl

theorem RepositoryName.make_eq (s : String) : make s = partOf mk .blankRepository s := by
  unfold make partOf
  cases nonblank? s <;> rfl

theorem AccessToken.make_eq (s : String) : make s = partOf mk .blankToken s := by
  unfold make partOf
  cases nonblank? s <;> rfl

theorem partOf_of_some (left : nonblank? s = some kept) :
    partOf wrap blank s = .ok (wrap kept) := by
  rw [partOf, left]

theorem partOf_of_none (nothing : nonblank? s = none) : partOf wrap blank s = .error blank := by
  rw [partOf, nothing]

theorem partOf_eq (wrap : String → α) (blank : Failure) (s : String) :
    partOf wrap blank s =
      if s.toList.all Text.blank then .error blank else .ok (wrap (Text.trim s)) := by
  rw [partOf, nonblank?_eq]
  cases s.toList.all Text.blank <;> rfl

theorem toOption_partOf (wrap : String → α) (blank : Failure) (s : String) :
    (partOf wrap blank s).toOption = (nonblank? s).map wrap := by
  unfold partOf
  cases nonblank? s <;> rfl

theorem eq_of_partOf_error (failed : partOf wrap blank s = .error failure) : failure = blank := by
  unfold partOf at failed
  split at failed
  · cases failed
  · exact (Except.error.inj failed).symm

end

/-- Each of the three is made of a text and keeps this of it. -/
structure Keeps (s kept : String) : Prop where
  owner : Owner.make s = .ok ⟨kept⟩
  repository : RepositoryName.make s = .ok ⟨kept⟩
  token : AccessToken.make s = .ok ⟨kept⟩

/-- None of the three is made of a text. -/
structure Refuses (s : String) : Prop where
  owner : Owner.make s = .error .blankRepository
  repository : RepositoryName.make s = .error .blankRepository
  token : AccessToken.make s = .error .blankToken

section

variable {s kept : String}

theorem keeps_of_nonblank? (left : nonblank? s = some kept) : Keeps s kept where
  owner := by rw [Owner.make_eq, partOf_of_some left]
  repository := by rw [RepositoryName.make_eq, partOf_of_some left]
  token := by rw [AccessToken.make_eq, partOf_of_some left]

theorem refuses_of_nonblank? (nothing : nonblank? s = none) : Refuses s where
  owner := by rw [Owner.make_eq, partOf_of_none nothing]
  repository := by rw [RepositoryName.make_eq, partOf_of_none nothing]
  token := by rw [AccessToken.make_eq, partOf_of_none nothing]

theorem keeps_iff : Keeps s kept ↔ Text.Trims s kept := by
  rw [← nonblank?_eq_some_iff]
  constructor
  · intro keeps
    cases left : nonblank? s with
    | none =>
      have refused := keeps.owner.symm.trans (refuses_of_nonblank? left).owner
      cases refused
    | some other =>
      have same := keeps.owner.symm.trans (keeps_of_nonblank? left).owner
      cases same
      rfl
  · exact keeps_of_nonblank?

/-- Either a text is blank, and then neither owner nor repository name nor token is made of it. Or
all three are made and keep the same of it: the one text in it that white space alone stands around
and that begins and ends with none. Made of that again, with any white space around it, they keep
just that, and what stands between two such texts is kept with them. -/
theorem parts_made_alike (s : String) :
    (Refuses s ∧ Text.Blank s) ∨
      (¬ Text.Blank s ∧ ∃ kept, Keeps s kept ∧ (∀ other, Text.Trims s other ↔ other = kept) ∧
        (∀ front back, Text.Blank front → Text.Blank back → Keeps (front ++ kept ++ back) kept) ∧
        ∀ s' kept' inner, Keeps s' kept' →
          Keeps (kept ++ inner ++ kept') (kept ++ inner ++ kept')) := by
  by_cases blank : Text.Blank s
  · exact .inl ⟨refuses_of_nonblank? (nonblank?_eq_none_iff.mpr blank), blank⟩
  · have trims : Text.Trims s (Text.trim s) := Text.trims_trim blank
    refine .inr ⟨blank, Text.trim s, keeps_iff.mpr trims, ?_, ?_, ?_⟩
    · intro other
      rw [Text.trims_iff, eq_comm]
      exact and_iff_right blank
    · intro front back before behind
      exact keeps_iff.mpr (trims.padded before behind)
    · intro s' kept' inner keeps
      exact keeps_iff.mpr (trims.between (keeps_iff.mp keeps) inner)

/-- White space of several kinds goes at both ends and stays inside. -/
theorem parts_made_alike_ideographic :
    let s := "\u3000my\u00A0 repo\u2029\n"
    ¬ Text.Blank s ∧ Keeps s "my\u00A0 repo" ∧
      Keeps ("\t" ++ "my\u00A0 repo" ++ "\u2003") "my\u00A0 repo" ∧
      Keeps ("my\u00A0 repo" ++ "\n\n" ++ "my\u00A0 repo") "my\u00A0 repo\n\nmy\u00A0 repo" := by
  intro s
  rcases parts_made_alike s with ⟨refuses, -⟩ | ⟨filled, kept, keeps, -, padded, between⟩
  · have owner : Owner.make s = .ok ⟨"my\u00A0 repo"⟩ := by decide +kernel
    cases owner.symm.trans refuses.owner
  · have owner : Owner.make s = .ok ⟨"my\u00A0 repo"⟩ := by decide +kernel
    cases owner.symm.trans keeps.owner
    have around : Text.Blank "\t" ∧ Text.Blank "\u2003" := by decide +kernel
    exact ⟨filled, keeps, padded _ _ around.1 around.2, between s _ "\n\n" keeps⟩

end

end DependencyLinks
