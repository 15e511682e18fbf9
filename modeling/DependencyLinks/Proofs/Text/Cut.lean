import DependencyLinks.Text.Cut
import Mathlib.Data.List.TakeWhile

/-! Rows cut at a mark: which parts a cut gives, and when the parts are told by the whole. -/

namespace DependencyLinks.Text

section

variable {α : Type} {p : α → Bool} {stop : α} {front : List α}

theorem takeWhile_append_stop (inside : ∀ c ∈ front, p c = true) (stops : ¬ p stop = true)
    (rest : List α) : (front ++ stop :: rest).takeWhile p = front := by
  rw [List.takeWhile_append_of_pos inside, List.takeWhile_cons_of_neg stops, List.append_nil]

theorem dropWhile_append_stop (inside : ∀ c ∈ front, p c = true) (stops : ¬ p stop = true)
    (rest : List α) : (front ++ stop :: rest).dropWhile p = stop :: rest := by
  rw [List.dropWhile_append_of_pos inside, List.dropWhile_cons_of_neg stops]

end

section

variable {α : Type} [BEq α] [LawfulBEq α] {mark : α} {cs : List α}

theorem ne_of_absent (absent : mark ∉ cs) : ∀ c ∈ cs, (c != mark) = true := by
  intro c member
  rw [bne_iff_ne]
  rintro rfl
  exact absent member

theorem takeWhile_ne_of_absent (absent : mark ∉ cs) : cs.takeWhile (· != mark) = cs :=
  List.takeWhile_eq_self_iff.mpr (ne_of_absent absent)

theorem dropWhile_ne_of_absent (absent : mark ∉ cs) : cs.dropWhile (· != mark) = [] :=
  List.dropWhile_eq_nil_iff.mpr (ne_of_absent absent)

theorem takeWhile_ne_append (absent : mark ∉ cs) (rest : List α) :
    (cs ++ mark :: rest).takeWhile (· != mark) = cs :=
  takeWhile_append_stop (ne_of_absent absent) (by simp) rest

theorem dropWhile_ne_append (absent : mark ∉ cs) (rest : List α) :
    (cs ++ mark :: rest).dropWhile (· != mark) = mark :: rest :=
  dropWhile_append_stop (ne_of_absent absent) (by simp) rest

theorem cutOnce_of_absent (absent : mark ∉ cs) : cutOnce mark cs = (cs, none) := by
  rw [cutOnce, takeWhile_ne_of_absent absent, dropWhile_ne_of_absent absent]
  rfl

theorem cutOnce_append (absent : mark ∉ cs) (rest : List α) :
    cutOnce mark (cs ++ mark :: rest) = (cs, some rest) := by
  rw [cutOnce, takeWhile_ne_append absent, dropWhile_ne_append absent]
  rfl

end

section

variable {α : Type} {p : α → Bool} {mark : α} {front : List α}

theorem cutAt_of_absent (absent : ∀ c ∈ front, p c = false) : cutAt p front = [front] := by
  have all : ∀ c ∈ front, (!p c) = true := fun c member => by rw [absent c member]; rfl
  rw [cutAt]
  split
  next => rw [List.takeWhile_eq_self_iff.mpr all]
  next c rest dropped =>
    rw [List.dropWhile_eq_nil_iff.mpr all] at dropped
    cases dropped

theorem cutAt_append (absent : ∀ c ∈ front, p c = false) (marked : p mark = true)
    (rest : List α) : cutAt p (front ++ mark :: rest) = front :: cutAt p rest := by
  have all : ∀ c ∈ front, (!p c) = true := fun c member => by rw [absent c member]; rfl
  have stops : ¬ (!p mark) = true := by simp [marked]
  have dropped := dropWhile_append_stop all stops rest
  rw [cutAt]
  split
  next nothing => simp [dropped] at nothing
  next c behind found =>
    rw [dropped, List.cons.injEq] at found
    rw [takeWhile_append_stop all stops, found.2]

end

section

variable {α : Type} {mark : α} {front front' behind behind' : List α}

/-- There is one way to cut a row at the last occurrence of a mark. -/
theorem append_mark_inj_of_behind (absent : mark ∉ behind) (absent' : mark ∉ behind') :
    front ++ mark :: behind = front' ++ mark :: behind' ↔ front = front' ∧ behind = behind' := by
  constructor
  · intro same
    rcases List.append_eq_append_iff.mp same with ⟨more, longer, rest⟩ | ⟨more, longer, rest⟩
    · rcases List.cons_eq_append_iff.mp rest with ⟨rfl, ends⟩ | ⟨inner, rfl, rfl⟩
      · exact ⟨by simpa using longer.symm, (List.cons.inj ends).2.symm⟩
      · exact absurd (List.mem_append_right inner List.mem_cons_self) absent
    · rcases List.cons_eq_append_iff.mp rest with ⟨rfl, ends⟩ | ⟨inner, rfl, rfl⟩
      · exact ⟨by simpa using longer, (List.cons.inj ends).2⟩
      · exact absurd (List.mem_append_right inner List.mem_cons_self) absent'
  · rintro ⟨rfl, rfl⟩
    rfl

/-- There is one way to cut a row at the first occurrence of a mark. -/
theorem append_mark_inj_of_front (absent : mark ∉ front) (absent' : mark ∉ front') :
    front ++ mark :: behind = front' ++ mark :: behind' ↔ front = front' ∧ behind = behind' := by
  have mirrored : behind.reverse ++ mark :: front.reverse =
      behind'.reverse ++ mark :: front'.reverse ↔ _ :=
    append_mark_inj_of_behind (mt List.mem_reverse.mp absent) (mt List.mem_reverse.mp absent')
  rw [← List.reverse_inj]
  simpa [and_comm] using mirrored

end

end DependencyLinks.Text
