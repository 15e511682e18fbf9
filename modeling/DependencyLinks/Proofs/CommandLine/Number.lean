import DependencyLinks.Proofs.CommandLine.Forwarded
import DependencyLinks.Proofs.CommandLine.Label

/-! Which command lines name a pull request, and by which number. Of several reasons for which one
names none, an unknown option comes first, then the count of positional arguments, and the text of
the only one last. -/

namespace DependencyLinks.CommandLine

/-- The text of an argument writes a positive number of 64 bits. -/
def Names (raw : RawText) (number : Nat) : Prop :=
  Text.Numeral (Utf8.lossy raw) number ∧ 0 < number ∧ number < 2 ^ 64

section

variable {line : CommandLine} {raw : RawText}

theorem names_iff {number : Nat} :
    Names raw number ↔ Text.word? (Utf8.lossy raw) = some number ∧ 0 < number := by
  rw [Names, Text.word?_eq_some_iff, and_assoc, and_comm (a := 0 < number)]
  rfl

theorem pullRequestNumber_eq_ok_iff {number : Nat} :
    line.pullRequestNumber = .ok number ↔
      line.unknown = [] ∧ ∃ raw, line.positionals = [raw] ∧ Names raw number := by
  constructor
  · intro named
    obtain ⟨known, raw, single, read⟩ := eq_of_pullRequestNumber named
    exact ⟨known, raw, single, names_iff.mpr ⟨read, pos_of_pullRequestNumber named⟩⟩
  · rintro ⟨known, raw, single, names⟩
    obtain ⟨read, positive⟩ := names_iff.mp names
    exact pullRequestNumber_of_single known single read positive

end

example : (split (["links", "-o", "x", "+0018446744073709551615"].map
      RawText.ofString)).pullRequestNumber = .ok 18446744073709551615 := by decide +kernel

end DependencyLinks.CommandLine
