import DependencyLinks.Url.Escape

/-! What escaping leaves: printable ASCII, without the characters that are reserved. -/

namespace DependencyLinks.Url

/-- Stands as it is in a part that escapes the given characters. -/
def Kept (reserved : List Char) (c : Char) : Prop :=
  control c = false ∧ c ∉ reserved

instance (reserved : List Char) (c : Char) : Decidable (Kept reserved c) :=
  inferInstanceAs (Decidable (_ ∧ _))

/-- What escapes are written with. -/
def escapeChars : List Char := "%0123456789ABCDEF".toList

/-- Printable ASCII, which is all that is no control. -/
def printable : List Char := (List.range 95).map fun n => Char.ofNat (0x20 + n)

theorem mem_printable {c : Char} (shown : control c = false) : c ∈ printable := by
  simp only [control, Bool.or_eq_false_iff, decide_eq_false_iff_not] at shown
  refine List.mem_map.mpr ⟨c.toNat - 0x20, List.mem_range.mpr (by omega), ?_⟩
  rw [Nat.add_sub_cancel' (by omega), Char.ofNat_toNat]

/-- What all of printable ASCII is, a character that is no control is. -/
theorem of_shown {p : Char → Prop} [DecidablePred p] {c : Char}
    (all : printable.all (p ·) = true) (shown : control c = false) : p c :=
  of_decide_eq_true (List.all_eq_true.mp all c (mem_printable shown))

theorem upperHexDigit_mem : ∀ digit < 16, upperHexDigit digit ∈ escapeChars := by
  decide

theorem mem_escapeByte {b : UInt8} {c : Char} (member : c ∈ escapeByte b) : c ∈ escapeChars := by
  have bound : b.toNat < 256 := b.toNat_lt
  simp only [escapeByte, List.mem_cons, List.not_mem_nil, or_false] at member
  rcases member with rfl | rfl | rfl
  · decide
  · exact upperHexDigit_mem _ (by omega)
  · exact upperHexDigit_mem _ (by omega)

/-- Only kept characters are left, as long as escapes are not escaped again. -/
theorem kept_of_mem_escape {reserved cs : List Char} {c : Char}
    (free : escapeChars.all (Kept reserved ·) = true) (member : c ∈ escape reserved cs) :
    Kept reserved c := by
  obtain ⟨d, -, inside⟩ := List.mem_flatMap.mp member
  split at inside
  next =>
    obtain ⟨b, -, byte⟩ := List.mem_flatMap.mp inside
    exact of_decide_eq_true (List.all_eq_true.mp free c (mem_escapeByte byte))
  next plain =>
    rw [List.mem_singleton.mp inside]
    rw [Bool.or_eq_true, not_or, Bool.not_eq_true, List.contains_iff_mem] at plain
    exact plain

end DependencyLinks.Url
