import DependencyLinks.Proofs.CommandLine.Glued
import DependencyLinks.Proofs.CommandLine.Standing
import DependencyLinks.Proofs.Text.Decimal

/-! What is forwarded from a command line: splitting it again changes nothing, and arguments that
the settings accept are forwarded as they are, but for a value that is glued to a letter. -/

namespace DependencyLinks

open Settings

namespace CommandLine

theorem ofArguments_flags (arguments : List RawText) :
    ofArguments (ofArguments arguments).flags =
      { ofArguments arguments with positionals := [], unknown := [] } := by
  fun_induction ofArguments arguments with
  | case1 => rfl
  | case2 argument rest read => rfl
  | case3 argument rest read ih | case5 argument rest name read ih =>
    -- Nothing of this argument is forwarded.
    simp only [append_eq, join, List.nil_append, outranking_none_left]
    exact ih
  | case4 argument rest request read ih | case6 argument rest field read ih =>
    simp only [append_eq, join, List.singleton_append]
    rw [ofArguments.eq_def]
    simp only [read, ih]
    rfl
  | case7 argument field read =>
    rw [ofArguments.eq_def]
    simp only [read]
  | case8 argument field read value rest ih =>
    simp only [append_eq, join, List.cons_append, List.nil_append]
    rw [ofArguments.eq_def]
    simp only [read, ih]
    rfl

/-- Splitting what a command line forwards gives it again, and the same request for
information. -/
theorem split_flags_split (arguments : List RawText) :
    split (split arguments).flags = { split arguments with positionals := [], unknown := [] } := by
  cases arguments with
  | nil => rfl
  | cons program rest =>
    change { flags := [program] } ++ ofArguments (ofArguments rest).flags = _
    rw [ofArguments_flags]
    rfl

theorem pullRequestNumber_of_single {line : CommandLine} {raw : RawText} {number : Nat}
    (known : line.unknown = []) (single : line.positionals = [raw])
    (read : Text.word? (Utf8.lossy raw) = some number) (positive : 0 < number) :
    line.pullRequestNumber = .ok number := by
  obtain ⟨n, rfl⟩ := Nat.exists_eq_succ_of_ne_zero positive.ne'
  rw [pullRequestNumber, number?, known, single]
  simp only [read]
  rfl

end CommandLine

end DependencyLinks
