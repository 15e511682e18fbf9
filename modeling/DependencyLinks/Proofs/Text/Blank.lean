import DependencyLinks.Identity
import Mathlib.Data.List.TakeWhile

/-! Texts without the white space around them, and whether anything is left of a text then. -/

namespace DependencyLinks

namespace Text

/-- A text with nothing but white space in it. -/
def Blank (s : String) : Prop :=
  ∀ c ∈ s.toList, blank c = true

instance (s : String) : Decidable (Blank s) :=
  decidable_of_iff (s.toList.all blank = true) List.all_eq_true

/-- What is left of a text without the white space around it, if anything is. -/
structure Trims (s kept : String) : Prop where
  filled : kept ≠ ""
  first : ∀ c ∈ kept.toList.head?, blank c = false
  last : ∀ c ∈ kept.toList.getLast?, blank c = false
  around : ∃ front back, s.toList = front ++ kept.toList ++ back ∧
    (∀ c ∈ front, blank c = true) ∧ ∀ c ∈ back, blank c = true

theorem dropWhile_blank_append {front kept : List Char} (blanks : ∀ c ∈ front, blank c = true)
    (first : ∀ c ∈ kept.head?, blank c = false) : (front ++ kept).dropWhile blank = kept := by
  rw [List.dropWhile_append_of_pos blanks]
  cases kept with
  | nil => rfl
  | cons c kept => exact List.dropWhile_cons_of_neg (by simp [first c rfl])

/-- White space is dropped as far as a character that is none. -/
theorem exists_blanks (cs : List Char) :
    ∃ front, cs = front ++ cs.dropWhile blank ∧ (∀ c ∈ front, blank c = true) ∧
      ∀ c ∈ (cs.dropWhile blank).head?, blank c = false := by
  refine ⟨cs.takeWhile blank, List.takeWhile_append_dropWhile.symm,
    fun c => List.mem_takeWhile_imp, ?_⟩
  intro c first
  have stop := List.head?_dropWhile_not blank cs
  rw [Option.mem_def.mp first] at stop
  exact stop

theorem strip_eq_nil_iff {cs : List Char} : strip cs = [] ↔ ∀ c ∈ cs, blank c = true := by
  obtain ⟨front, cut, blanks, first⟩ := exists_blanks cs
  simp only [strip, List.reverse_eq_nil_iff, List.dropWhile_eq_nil_iff, List.mem_reverse]
  constructor
  · intro kept
    rw [cut]
    exact List.forall_mem_append.mpr ⟨blanks, kept⟩
  · exact fun all c member => all c ((List.dropWhile_suffix blank).subset member)

/-- Blanks at both ends are all that is lost. -/
theorem strip_append {front kept back : List Char} (before : ∀ c ∈ front, blank c = true)
    (first : ∀ c ∈ kept.head?, blank c = false) (last : ∀ c ∈ kept.getLast?, blank c = false)
    (filled : kept ≠ []) (behind : ∀ c ∈ back, blank c = true) :
    strip (front ++ kept ++ back) = kept := by
  have left : (front ++ kept ++ back).dropWhile blank = kept ++ back := by
    rw [List.append_assoc]
    cases kept with
    | nil => exact absurd rfl filled
    | cons c kept => exact dropWhile_blank_append before first
  rw [strip, left, List.reverse_append, dropWhile_blank_append, List.reverse_reverse]
  · simpa using behind
  · rwa [List.head?_reverse]

theorem exists_around_strip (cs : List Char) :
    ∃ front back, cs = front ++ strip cs ++ back ∧ (∀ c ∈ front, blank c = true) ∧
      (∀ c ∈ back, blank c = true) ∧ (∀ c ∈ (strip cs).head?, blank c = false) ∧
      ∀ c ∈ (strip cs).getLast?, blank c = false := by
  obtain ⟨front, cut, before, first⟩ := exists_blanks cs
  obtain ⟨back, rest, behind, last⟩ := exists_blanks (cs.dropWhile blank).reverse
  rw [List.reverse_eq_iff, List.reverse_append] at rest
  refine ⟨front, back.reverse, ?_, before, by simpa using behind, ?_, ?_⟩
  · rw [strip, List.append_assoc, ← rest]
    exact cut
  · intro c member
    exact first c (by rw [rest, List.head?_append, ← strip, Option.mem_def.mp member]; rfl)
  · rw [strip, List.getLast?_reverse]
    exact last

variable {s kept : String}

theorem Trims.toList_ne_nil (trims : Trims s kept) : kept.toList ≠ [] :=
  mt String.toList_eq_nil_iff.mp trims.filled

theorem Trims.not_blank (trims : Trims s kept) : ¬ Blank s := by
  intro all
  obtain ⟨front, back, cut, -, -⟩ := trims.around
  cases inner : kept.toList with
  | nil => exact trims.toList_ne_nil inner
  | cons c rest =>
    have first := trims.first c (by rw [inner]; rfl)
    rw [all c (by simp [cut, inner])] at first
    cases first

theorem Trims.trim_eq (trims : Trims s kept) : trim s = kept := by
  obtain ⟨front, back, cut, before, behind⟩ := trims.around
  rw [trim, cut, strip_append before trims.first trims.last trims.toList_ne_nil behind,
    String.ofList_toList]

theorem trims_trim (filled : ¬ Blank s) : Trims s (trim s) := by
  obtain ⟨front, back, cut, before, behind, first, last⟩ := exists_around_strip s.toList
  constructor
  case filled =>
    intro nothing
    rw [← String.toList_eq_nil_iff, toList_trim, strip_eq_nil_iff] at nothing
    exact filled nothing
  case first => rwa [toList_trim]
  case last => rwa [toList_trim]
  case around => exact ⟨front, back, by rwa [toList_trim], before, behind⟩

theorem trims_iff : Trims s kept ↔ ¬ Blank s ∧ trim s = kept := by
  constructor
  · exact fun trims => ⟨trims.not_blank, trims.trim_eq⟩
  · rintro ⟨filled, rfl⟩
    exact trims_trim filled

end Text

theorem nonblank?_eq (s : String) :
    nonblank? s = if s.toList.all Text.blank then none else some (Text.trim s) := by
  have empty : (Text.trim s).isEmpty = s.toList.all Text.blank := by
    rw [Bool.eq_iff_iff, List.all_eq_true, ← Text.strip_eq_nil_iff, ← Text.toList_trim,
      String.isEmpty_iff, String.toList_eq_nil_iff]
  simp only [nonblank?, empty]

theorem nonblank?_eq_some_iff {s kept : String} : nonblank? s = some kept ↔ Text.Trims s kept := by
  rw [nonblank?_eq, Text.trims_iff, Text.Blank, ← List.all_eq_true]
  split <;> simp [*]

theorem nonblank?_eq_none_iff {s : String} : nonblank? s = none ↔ Text.Blank s := by
  rw [nonblank?_eq, Text.Blank, ← List.all_eq_true]
  split <;> simp [*]

end DependencyLinks
