import DependencyLinks.Proofs.Text.Utf8
import DependencyLinks.Text.Decimal
import Mathlib.Data.Nat.Digits.Defs

/-! Numbers of 64 bits in decimal. Reading stops where a number gets too large, and still gives
every number that fits: what has been read never exceeds what is read in the end. -/

namespace DependencyLinks.Text

theorem decimalValue_toDigits (n : Nat) : decimalValue (Nat.toDigits 10 n) = n :=
  Nat.ofDigitChars_ten_toDigits

theorem toDigits_inj {n m : Nat} : Nat.toDigits 10 n = Nat.toDigits 10 m ↔ n = m := by
  constructor
  · intro same
    rw [← decimalValue_toDigits n, same, decimalValue_toDigits]
  · exact congrArg (Nat.toDigits 10)

theorem isDigit_of_mem_toDigits {n : Nat} {c : Char} (member : c ∈ Nat.toDigits 10 n) :
    c.isDigit = true :=
  Nat.isDigit_of_mem_toDigits (by decide) (by decide) member

/-- A number with one more digit behind it. -/
abbrev pushed (value : Nat) (c : Char) : Nat :=
  10 * value + digitValue c

/-- A text that writes a number: digits, after one plus sign or none. Of the digits the last one
counts once, and each other one ten times as much as the one behind it. -/
def Numeral (cs : List Char) (n : Nat) : Prop :=
  ∃ digits, (cs = digits ∨ cs = '+' :: digits) ∧ digits ≠ [] ∧
    (∀ c ∈ digits, c.isDigit = true) ∧ Nat.ofDigits 10 (digits.reverse.map digitValue) = n

theorem decimalValue_eq_ofDigits (digits : List Char) :
    decimalValue digits = Nat.ofDigits 10 (digits.reverse.map digitValue) := by
  rw [Nat.ofDigits_eq_foldr, List.foldr_map, List.foldr_reverse, decimalValue]
  simp only [Nat.cast_id, Nat.add_comm]

/-- More digits never make a number smaller. -/
theorem le_foldl_pushed (digits : List Char) (value : Nat) : value ≤ digits.foldl pushed value := by
  induction digits generalizing value with
  | nil => exact Nat.le_refl value
  | cons c digits ih =>
    calc value ≤ pushed value c := by unfold pushed; omega
      _ ≤ digits.foldl pushed (pushed value c) := ih _

theorem push?_eq_some_iff {value n : Nat} {c : Char} :
    push? value c = some n ↔ c.isDigit = true ∧ pushed value c = n ∧ n < wordBound := by
  unfold push?
  split
  next fits =>
    simp only [Bool.and_eq_true, decide_eq_true_eq] at fits
    rw [Option.some.injEq]
    constructor
    · rintro rfl
      exact ⟨fits.1, rfl, fits.2⟩
    · exact fun same => same.2.1
  next outside =>
    simp only [Bool.and_eq_true, decide_eq_true_eq] at outside
    constructor
    · nofun
    · rintro ⟨digit, rfl, bound⟩
      exact absurd ⟨digit, bound⟩ outside

/-- Digit by digit, with a check at each, the number is read that the digits have on the whole. -/
theorem foldlM_push?_eq_some_iff {digits : List Char} {value n : Nat} (small : value < wordBound) :
    digits.foldlM push? value = some n ↔
      (∀ c ∈ digits, c.isDigit = true) ∧ digits.foldl pushed value = n ∧ n < wordBound := by
  induction digits generalizing value with
  | nil =>
    constructor
    · rintro ⟨⟩
      exact ⟨nofun, rfl, small⟩
    · rintro ⟨-, rfl, -⟩
      rfl
  | cons c digits ih =>
    rw [List.foldlM_cons, List.forall_mem_cons, List.foldl_cons]
    constructor
    · intro read
      obtain ⟨next, first, others⟩ := Option.bind_eq_some_iff.mp read
      obtain ⟨digit, rfl, bound⟩ := push?_eq_some_iff.mp first
      obtain ⟨decimal, same, fits⟩ := (ih bound).mp others
      exact ⟨⟨digit, decimal⟩, same, fits⟩
    · rintro ⟨⟨digit, decimal⟩, same, fits⟩
      have bound : pushed value c < wordBound := by
        have below := le_foldl_pushed digits (pushed value c)
        omega
      have first : push? value c = some (pushed value c) :=
        push?_eq_some_iff.mpr ⟨digit, rfl, bound⟩
      exact Option.bind_eq_some_iff.mpr ⟨_, first, (ih bound).mpr ⟨decimal, same, fits⟩⟩

theorem digits?_eq_some_iff {cs : List Char} {n : Nat} :
    digits? cs = some n ↔
      cs ≠ [] ∧ (∀ c ∈ cs, c.isDigit = true) ∧ decimalValue cs = n ∧ n < wordBound := by
  unfold digits?
  split
  next empty =>
    rw [List.isEmpty_iff] at empty
    simp [empty]
  next filled =>
    rw [List.isEmpty_iff] at filled
    rw [foldlM_push?_eq_some_iff (by decide)]
    exact (and_iff_right filled).symm

theorem word?_eq_some_iff_digits? {cs : List Char} {n : Nat} :
    word? cs = some n ↔
      ∃ digits, (cs = digits ∨ cs = '+' :: digits) ∧ digits? digits = some n := by
  unfold word?
  split
  next rest =>
    constructor
    · exact fun read => ⟨rest, .inr rfl, read⟩
    · rintro ⟨digits, rfl | same, read⟩
      · have decimal := (digits?_eq_some_iff.mp read).2.1
        exact absurd (decimal '+' List.mem_cons_self) (by decide)
      · exact (List.cons.inj same).2 ▸ read
  next unsigned =>
    constructor
    · exact fun read => ⟨cs, .inl rfl, read⟩
    · rintro ⟨digits, rfl | same, read⟩
      · exact read
      · exact absurd same (unsigned digits)

/-- The texts that are read as a number of 64 bits are those that write it. -/
theorem word?_eq_some_iff {cs : List Char} {n : Nat} :
    word? cs = some n ↔ Numeral cs n ∧ n < wordBound := by
  rw [word?_eq_some_iff_digits?]
  constructor
  · rintro ⟨digits, written, read⟩
    obtain ⟨filled, decimal, value, bound⟩ := digits?_eq_some_iff.mp read
    exact ⟨⟨digits, written, filled, decimal, decimalValue_eq_ofDigits digits ▸ value⟩, bound⟩
  · rintro ⟨⟨digits, written, filled, decimal, value⟩, bound⟩
    refine ⟨digits, written, digits?_eq_some_iff.mpr ⟨filled, decimal, ?_, bound⟩⟩
    rw [decimalValue_eq_ofDigits, value]

theorem Numeral.unique {cs : List Char} {n m : Nat} (first : Numeral cs n)
    (second : Numeral cs m) : n = m := by
  obtain ⟨digits, written, filled, decimal, rfl⟩ := first
  obtain ⟨others, written', filled', decimal', rfl⟩ := second
  have unsigned : ∀ {a b : List Char}, (∀ c ∈ a, c.isDigit = true) → a ≠ '+' :: b := by
    rintro a b decimal rfl
    exact absurd (decimal '+' List.mem_cons_self) (by decide)
  rcases written with rfl | rfl <;> rcases written' with same | same
  · rw [same]
  · exact absurd same (unsigned decimal)
  · exact absurd same.symm (unsigned decimal')
  · rw [(List.cons.inj same).2]

end DependencyLinks.Text
