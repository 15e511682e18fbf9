import DependencyLinks.Locator
import DependencyLinks.Proofs.Text.Cut
import DependencyLinks.Proofs.Text.Decimal

/-! The paths of a locator, read from their ends. Owner and repository may hold any slashes, but
what is written behind them holds only its own. So the last part of a path tells which of the two it
is, and a path gives back the number and the repository in front of it. -/

namespace DependencyLinks

theorem Text.slash_not_mem_toDigits (n : Nat) : '/' ∉ Nat.toDigits 10 n := fun member =>
  absurd (isDigit_of_mem_toDigits member) (by decide)

namespace Locator

variable {first second : Locator}

/-- Owner and repository as one text, which a slash in either of them makes ambiguous. -/
def fullName (locator : Locator) : String :=
  locator.owner.text ++ "/" ++ locator.repository.text

theorem toList_repositoryPath (locator : Locator) :
    locator.repositoryPath.toList = "/repos/".toList ++ locator.fullName.toList := by
  simp [repositoryPath, fullName]

theorem toList_pullRequestPath (locator : Locator) :
    locator.pullRequestPath.toList =
      (locator.repositoryPath.toList ++ "/pulls".toList) ++
        '/' :: Nat.toDigits 10 locator.number.value := by
  simp [pullRequestPath]

theorem toList_commentsPath (locator : Locator) :
    locator.commentsPath.toList =
      ((locator.repositoryPath.toList ++ "/issues".toList) ++
        '/' :: Nat.toDigits 10 locator.number.value) ++ '/' :: "comments".toList := by
  simp [commentsPath]

theorem owner_inj :
    first.owner.text.toList = second.owner.text.toList ↔ first.owner = second.owner := by
  rw [String.toList_inj, Owner.mk.injEq]

theorem repository_inj :
    first.repository.text.toList = second.repository.text.toList ↔
      first.repository = second.repository := by
  rw [String.toList_inj, RepositoryName.mk.injEq]

theorem number_inj : first.number.value = second.number.value ↔ first.number = second.number := by
  rw [PullRequestNumber.mk.injEq]

theorem repositoryPath_inj :
    first.repositoryPath.toList = second.repositoryPath.toList ↔
      first.fullName = second.fullName := by
  rw [toList_repositoryPath, toList_repositoryPath, List.append_cancel_left_eq, String.toList_inj]

theorem pullRequestPath_inj :
    first.pullRequestPath = second.pullRequestPath ↔
      first.number = second.number ∧ first.fullName = second.fullName := by
  rw [← String.toList_inj, toList_pullRequestPath, toList_pullRequestPath,
    Text.append_mark_inj_of_behind (Text.slash_not_mem_toDigits _) (Text.slash_not_mem_toDigits _),
    List.append_cancel_right_eq, Text.toDigits_inj, number_inj, repositoryPath_inj, and_comm]

theorem commentsPath_inj :
    first.commentsPath = second.commentsPath ↔
      first.number = second.number ∧ first.fullName = second.fullName := by
  rw [← String.toList_inj, toList_commentsPath, toList_commentsPath, List.append_cancel_right_eq,
    Text.append_mark_inj_of_behind (Text.slash_not_mem_toDigits _) (Text.slash_not_mem_toDigits _),
    List.append_cancel_right_eq, Text.toDigits_inj, number_inj, repositoryPath_inj, and_comm]

/-- One path ends in a number and the other in a word. -/
theorem pullRequestPath_ne_commentsPath (first second : Locator) :
    first.pullRequestPath ≠ second.commentsPath := by
  intro same
  rw [← String.toList_inj, toList_pullRequestPath, toList_commentsPath,
    Text.append_mark_inj_of_behind (Text.slash_not_mem_toDigits _) (by decide)] at same
  have digit : 'c'.isDigit = true := Text.isDigit_of_mem_toDigits (by rw [same.2]; decide)
  exact absurd digit (by decide)

theorem toList_fullName (locator : Locator) :
    locator.fullName.toList =
      locator.owner.text.toList ++ '/' :: locator.repository.text.toList := by
  simp [fullName]

/-- Where neither owner holds a slash, or neither repository, the full name is not ambiguous. -/
theorem fullName_inj
    (plain : ('/' ∉ first.owner.text.toList ∧ '/' ∉ second.owner.text.toList) ∨
      ('/' ∉ first.repository.text.toList ∧ '/' ∉ second.repository.text.toList)) :
    first.fullName = second.fullName ↔
      first.owner = second.owner ∧ first.repository = second.repository := by
  rw [← String.toList_inj, toList_fullName, toList_fullName, ← owner_inj, ← repository_inj]
  rcases plain with ⟨absent, absent'⟩ | ⟨absent, absent'⟩
  · exact Text.append_mark_inj_of_front absent absent'
  · exact Text.append_mark_inj_of_behind absent absent'

/-- Both paths name the same: the number and the full name of the repository. Neither is ever the
other path of any locator. Without slashes in the owners, or without any in the repositories, a
path leads to one owner, one repository and one number. -/
theorem paths_name_alike (first second : Locator) :
    (first.pullRequestPath = second.pullRequestPath ↔
      first.commentsPath = second.commentsPath) ∧
    (first.commentsPath = second.commentsPath ↔
      first.number = second.number ∧
        first.owner.text ++ "/" ++ first.repository.text =
          second.owner.text ++ "/" ++ second.repository.text) ∧
    first.pullRequestPath ≠ second.commentsPath ∧
    (('/' ∉ first.owner.text.toList ∧ '/' ∉ second.owner.text.toList) ∨
        ('/' ∉ first.repository.text.toList ∧ '/' ∉ second.repository.text.toList) →
      first.pullRequestPath = second.pullRequestPath ∨
        first.commentsPath = second.commentsPath →
      first.owner = second.owner ∧ first.repository = second.repository ∧
        first.number = second.number) := by
  refine ⟨pullRequestPath_inj.trans commentsPath_inj.symm, commentsPath_inj,
    pullRequestPath_ne_commentsPath first second, ?_⟩
  intro plain same
  have named : first.number = second.number ∧ first.fullName = second.fullName := by
    rcases same with pullRequest | comments
    · exact pullRequestPath_inj.mp pullRequest
    · exact commentsPath_inj.mp comments
  obtain ⟨owner, repository⟩ := (fullName_inj plain).mp named.2
  exact ⟨owner, repository, named.1⟩

private def sample (host owner repository : String) : Locator where
  apiBase := { scheme := "http", place := .path (some { host := some (.name host) }) [""] }
  owner := ⟨owner⟩
  repository := ⟨repository⟩
  number := ⟨5, by decide⟩

/-- An owner that reads like the rest of a path, and a repository that reads like a number. -/
theorem paths_name_alike_nested :
    let first := sample "a" "o/r/pulls" "5"
    let second := sample "b" "o/r/pulls" "5"
    ('/' ∉ first.repository.text.toList ∧ '/' ∉ second.repository.text.toList) ∧
      first.pullRequestPath = second.pullRequestPath ∧
      first.commentsPath = second.commentsPath ∧
      first.pullRequestPath ≠ second.commentsPath ∧
      first.owner = second.owner ∧ first.repository = second.repository ∧
      first.number = second.number := by
  intro first second
  have plain : '/' ∉ first.repository.text.toList ∧ '/' ∉ second.repository.text.toList := by
    decide
  have same : first.pullRequestPath = second.pullRequestPath := by decide +kernel
  obtain ⟨alike, -, apart, back⟩ := paths_name_alike first second
  exact ⟨plain, same, alike.mp same, apart, back (.inr plain) (.inl same)⟩

/-- With slashes on both sides, different owners share their paths. -/
example : (sample "a" "o/r" "s").pullRequestPath = (sample "a" "o" "r/s").pullRequestPath := by
  decide +kernel

end Locator

end DependencyLinks
