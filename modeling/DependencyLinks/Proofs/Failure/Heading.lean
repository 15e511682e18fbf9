import DependencyLinks.Failure
import Mathlib.Data.List.Infix

/-! Failures told by their texts. No heading begins the heading of another kind. So only one heading
begins a text, whatever the message is, and what stands behind it is the message. -/

namespace DependencyLinks.Failure

variable {first second failure : Failure}

/-- The same kind of failure with another message, where it has one. -/
def withDetail (detail : String) : Failure → Failure
  | usage _ => usage detail
  | zeroNumber => zeroNumber
  | blankRepository => blankRepository
  | invalidUrl _ => invalidUrl detail
  | blankToken => blankToken
  | invalidPattern _ => invalidPattern detail
  | authentication _ => authentication detail
  | api _ => api detail
  | network _ => network detail
  | output _ => output detail
  | configuration _ => configuration detail

/-- A failure with nothing in its message stands for all of its kind. -/
def kind (failure : Failure) : Failure :=
  failure.withDetail ""

def kinds : List Failure :=
  [usage "", zeroNumber, blankRepository, invalidUrl "", blankToken, invalidPattern "",
    authentication "", api "", network "", output "", configuration ""]

theorem kind_mem_kinds (failure : Failure) : failure.kind ∈ kinds := by
  cases failure <;> simp [kind, withDetail, kinds]

@[simp] theorem heading_kind (failure : Failure) : failure.kind.heading = failure.heading := by
  cases failure <;> rfl

@[simp] theorem withDetail_kind (failure : Failure) :
    failure.kind.withDetail failure.detail = failure := by
  cases failure <;> rfl

theorem isUsage_iff_kind : failure.isUsage = true ↔ failure.kind = usage "" := by
  cases failure <;> simp [isUsage, kind, withDetail]

theorem kinds_apart : ∀ first ∈ kinds, ∀ second ∈ kinds,
    first.heading.toList <+: second.heading.toList → first = second := by
  decide +kernel

theorem kind_eq_of_heading (begins : first.heading.toList <+: second.heading.toList) :
    first.kind = second.kind := by
  apply kinds_apart _ (kind_mem_kinds first) _ (kind_mem_kinds second)
  rwa [heading_kind, heading_kind]

theorem toList_text (failure : Failure) :
    failure.text.toList = failure.heading.toList ++ failure.detail.toList :=
  String.toList_append

/-- The heading that begins a text tells the kind of its failure, whatever comes behind. -/
theorem heading_prefix_iff (first second : Failure) (rest : List Char) :
    first.heading.toList <+: second.text.toList ++ rest ↔ first.kind = second.kind := by
  rw [toList_text, List.append_assoc]
  constructor
  · intro begins
    -- Of two beginnings of one text the shorter begins the longer, and both are headings.
    have own := List.prefix_append second.heading.toList (second.detail.toList ++ rest)
    rcases List.prefix_or_prefix_of_prefix begins own with inside | around
    · exact kind_eq_of_heading inside
    · exact (kind_eq_of_heading around).symm
  · intro same
    rw [← heading_kind first, same, heading_kind]
    exact List.prefix_append _ _

theorem usage_prefix_iff (rest : List Char) :
    "usage: ".toList <+: failure.text.toList ++ rest ↔ failure.isUsage = true := by
  rw [isUsage_iff_kind, eq_comm]
  exact heading_prefix_iff (usage "") failure rest

theorem text_inj : first.text = second.text ↔ first = second := by
  constructor
  · intro same
    have kind : first.kind = second.kind := by
      rw [← heading_prefix_iff first second [], List.append_nil, ← same, toList_text]
      exact List.prefix_append _ _
    have heading : first.heading = second.heading := by
      rw [← heading_kind, kind, heading_kind]
    have detail : first.detail = second.detail := by
      rw [text, text, heading] at same
      exact (String.append_right_inj _).mp same
    calc first = first.kind.withDetail first.detail := (withDetail_kind first).symm
      _ = second.kind.withDetail second.detail := by rw [kind, detail]
      _ = second := withDetail_kind second
  · rintro rfl
    rfl

end DependencyLinks.Failure
