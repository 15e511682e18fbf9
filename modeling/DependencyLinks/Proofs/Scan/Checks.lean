import DependencyLinks.Proofs.Failure
import DependencyLinks.Proofs.Program.Stages

/-! What a scan checks before it sends anything. Each check is judged by itself here, and the first
finding turns out to be what the scan reports. -/

namespace DependencyLinks

inductive Check where
  | owner
  | repository
  | number
  | apiBase
  | pattern
  | client
deriving DecidableEq, Repr

namespace Check

/-- What a check finds wrong, whatever the other checks find. -/
def finding? (settings : Settings) (value : Nat) : Check → Option Failure
  | owner => if settings.ownerText.toList.all Text.blank then some .blankRepository else none
  | repository =>
    if settings.repositoryText.toList.all Text.blank then some .blankRepository else none
  | number => if value = 0 then some .zeroNumber else none
  | apiBase =>
    match Url.read settings.apiBaseText with
    | .error fault => some (.invalidUrl fault.message)
    | .ok url =>
      if url.hasPath then none
      else some (.invalidUrl (settings.apiBaseText ++ " cannot be used as a base URL"))
  | pattern =>
    if Pattern.capacity < settings.markerText.utf8ByteSize + settings.linkStartText.utf8ByteSize then
      some (.invalidPattern "Compiled regex exceeds size limit of 10485760 bytes.")
    else none
  | client =>
    match Url.read settings.apiBaseText with
    | .error _ => none
    | .ok url =>
      match Uri.read url.text with
      | .error fault => some (.invalidUrl fault.message)
      | .ok _ => none

/-- The checks that a locator takes. -/
def ofLocator : List Check := [owner, repository, number, apiBase]

/-- All checks, in the order that they are made. -/
def all : List Check := ofLocator ++ [pattern, client]

/-- The finding of the first check that finds anything. -/
def first? (settings : Settings) (value : Nat) : Option Failure :=
  all.findSome? (finding? settings value)

end Check

namespace Settings

variable {settings : Settings} {number : Nat} {locator : Locator}

/-- A locator leads to what the settings and the number name. -/
structure Names (settings : Settings) (number : Nat) (locator : Locator) : Prop where
  apiBase : Url.read settings.apiBaseText = .ok locator.apiBase
  owner : locator.owner.text = Text.trim settings.ownerText
  repository : locator.repository.text = Text.trim settings.repositoryText
  number : locator.number.value = number

theorem names_of_locator (located : settings.locator number = .ok locator) :
    settings.Names number locator := by
  simp only [Settings.locator, Locator.ofParts, Owner.make_eq, RepositoryName.make_eq,
    partOf_eq, PullRequestNumber.make, bind, Except.bind] at located
  split_ifs at located with owner repository positive
  simp only [Locator.make] at located
  split at located
  · cases located
  · split at located
    · cases located
      exact ⟨‹_›, rfl, rfl, rfl⟩
    · cases located

theorem failure?_locator (settings : Settings) (number : Nat) :
    failure? (settings.locator number) =
      Check.ofLocator.findSome? (Check.finding? settings number) := by
  simp only [Settings.locator, Locator.ofParts, Owner.make_eq, RepositoryName.make_eq,
    partOf_eq, PullRequestNumber.make, failure?_bind, Check.ofLocator, List.findSome?, Check.finding?]
  cases settings.ownerText.toList.all Text.blank with
  | true => rfl
  | false =>
  cases settings.repositoryText.toList.all Text.blank with
  | true => rfl
  | false =>
  cases number with
  | zero => rfl
  | succ number =>
  simp only [Bool.false_eq_true, ↓reduceIte, Nat.succ_ne_zero, Nat.zero_lt_succ, ↓reduceDIte,
    Locator.make]
  cases Url.read settings.apiBaseText with
  | error fault => rfl
  | ok url => cases path : url.hasPath <;> simp [path]

theorem failure?_pattern (settings : Settings) (number : Nat) :
    failure? settings.pattern = Check.pattern.finding? settings number := by
  simp only [Settings.pattern, Pattern.make, Check.finding?]
  split_ifs <;> first | rfl | omega

theorem failure?_connect (token : Option AccessToken) (names : settings.Names number locator) :
    failure? (Remote.Client.connect token locator) = Check.client.finding? settings number := by
  simp only [Remote.Client.connect, Check.finding?, names.apiBase]
  split <;> simp [*]

/-- The findings come from three steps: the locator, the pattern and the client. -/
theorem first?_eq (settings : Settings) (number : Nat) :
    Check.first? settings number =
      (failure? (settings.locator number)).or
        ((failure? settings.pattern).or (Check.client.finding? settings number)) := by
  rw [Check.first?, Check.all, List.findSome?_append, ← failure?_locator,
    failure?_pattern settings number]
  simp only [List.findSome?]
  cases Check.pattern.finding? settings number <;>
    cases Check.client.finding? settings number <;> rfl

/-- A file is a URL that paths can be put behind, but nothing can be sent there. -/
example : Check.first? { apiBase := some "file:///tmp" } 7 =
    some (.invalidUrl "invalid format") := by
  decide +kernel

/-- The first finding is what the scan reports, and the connection stays as it is. -/
theorem run_scan_of_first?_some {failure : Failure} (environment : Variables)
    (connection : Remote.Connection) (found : Check.first? settings number = some failure) :
    ((settings.scan environment number).run connection).result = .error failure ∧
      ((settings.scan environment number).run connection).state = connection := by
  rw [first?_eq] at found
  cases located : settings.locator number with
  | error failure' =>
    rw [located, failure?_error, Option.some_or, Option.some.injEq] at found
    rw [run_scan_of_locator_error connection located, found]
    exact ⟨rfl, rfl⟩
  | ok locator =>
  cases compiled : settings.pattern with
  | error failure' =>
    rw [located, compiled, failure?_ok, Option.none_or, failure?_error, Option.some_or,
      Option.some.injEq] at found
    rw [run_scan_of_pattern_error connection located compiled, found]
    exact ⟨rfl, rfl⟩
  | ok pattern =>
    rw [located, compiled, failure?_ok, Option.none_or, failure?_ok, Option.none_or,
      ← failure?_connect (settings.resolveToken environment) (names_of_locator located),
      failure?_eq_some_iff] at found
    exact run_scan_of_connect_error connection located compiled found

/-- Without a finding, locator, pattern and client are there, whatever token there is. -/
theorem ready_of_first?_none (token : Option AccessToken)
    (clear : Check.first? settings number = none) :
    ∃ (locator : Locator) (pattern : Pattern) (client : Remote.Client),
      settings.locator number = .ok locator ∧ settings.pattern = .ok pattern ∧
        Remote.Client.connect token locator = .ok client := by
  rw [first?_eq, Option.or_eq_none_iff, Option.or_eq_none_iff] at clear
  obtain ⟨located, compiled, connected⟩ := clear
  obtain ⟨locator, located⟩ := failure?_eq_none_iff.mp located
  obtain ⟨pattern, compiled⟩ := failure?_eq_none_iff.mp compiled
  rw [← failure?_connect token (names_of_locator located)] at connected
  obtain ⟨client, connected⟩ := failure?_eq_none_iff.mp connected
  exact ⟨locator, pattern, client, located, compiled, connected⟩

end Settings

end DependencyLinks
