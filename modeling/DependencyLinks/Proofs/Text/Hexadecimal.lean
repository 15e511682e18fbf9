import DependencyLinks.Settings.Value

/-! Hexadecimal digits, and numbers that are written in them and read back. -/

namespace DependencyLinks.Text

def hexDigits : List Char := "0123456789abcdef".toList

theorem digitChar_mem_hexDigits : ∀ digit < 16, Nat.digitChar digit ∈ hexDigits := by
  decide

theorem hexValue?_digitChar : ∀ digit < 16, Url.hexValue? (Nat.digitChar digit) = some digit := by
  decide

theorem mem_hexDigits {base n : Nat} {c : Char} (several : 1 < base) (few : base ≤ 16)
    (member : c ∈ Nat.toDigits base n) : c ∈ hexDigits := by
  induction n using Nat.base_induction base several with
  | single digit small =>
    rw [Nat.toDigits_of_lt_base small, List.mem_singleton] at member
    exact member ▸ digitChar_mem_hexDigits digit (Nat.lt_of_lt_of_le small few)
  | digit m digit small positive ih =>
    rw [← Nat.toDigits_append_toDigits several positive small, List.mem_append,
      Nat.toDigits_of_lt_base small, List.mem_singleton] at member
    rcases member with front | last
    · exact ih front
    · exact last ▸ digitChar_mem_hexDigits digit (Nat.lt_of_lt_of_le small few)

/-- What all hexadecimal digits are, those of a number are. -/
theorem of_mem_toDigits {base n : Nat} {p : Char → Prop} [DecidablePred p] {c : Char}
    (all : hexDigits.all (p ·) = true) (several : 1 < base) (few : base ≤ 16)
    (member : c ∈ Nat.toDigits base n) : p c :=
  of_decide_eq_true (List.all_eq_true.mp all c (mem_hexDigits several few member))

/-- The digits of a number, each by its value, make up the number. -/
theorem exists_mapM_toDigits (n : Nat) :
    ∃ values, (Nat.toDigits 16 n).mapM Url.hexValue? = some values ∧
      values.foldl (fun value digit => 16 * value + digit) 0 = n := by
  induction n using Nat.base_induction 16 (by decide) with
  | single digit small =>
    refine ⟨[digit], ?_, by simp⟩
    rw [Nat.toDigits_of_lt_base small]
    simp [hexValue?_digitChar digit small]
  | digit m digit small positive ih =>
    obtain ⟨values, read, value⟩ := ih
    refine ⟨values ++ [digit], ?_, ?_⟩
    · rw [← Nat.toDigits_append_toDigits (by decide) positive small, List.mapM_append, read,
        Nat.toDigits_of_lt_base small]
      simp [hexValue?_digitChar digit small]
    · rw [List.foldl_append, value]
      rfl

theorem hex?_toDigits (n : Nat) : Settings.Value.hex? (Nat.toDigits 16 n) = some n := by
  obtain ⟨values, read, value⟩ := exists_mapM_toDigits n
  rw [Settings.Value.hex?, read, Option.map_some, value]

theorem char?_toNat (c : Char) : Settings.Value.char? c.toNat = some c := by
  have valid : c.toNat.isValidChar := c.valid
  unfold Nat.isValidChar at valid
  rw [Settings.Value.char?, if_pos (by simp; omega), Char.ofNat_toNat]

end DependencyLinks.Text
