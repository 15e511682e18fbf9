import DependencyLinks.Program
import DependencyLinks.Proofs.Identity
import DependencyLinks.Proofs.Remote.Thread

/-! The stages of a scan: which of them a run reaches, and the failures that each can report. -/

namespace DependencyLinks

/-- The failures that are left once the command line has named a pull request and as long as the
output can be written. -/
def Failure.ofScan : Failure → Bool
  | .usage _ | .zeroNumber | .blankToken | .output _ => false
  | _ => true

theorem Failure.not_usage_of_ofScan {failure : Failure} (scan : failure.ofScan = true) :
    failure.isUsage = false := by
  cases failure <;> simp_all [ofScan, isUsage]

theorem Run.statusOf_of_ofScan {failure : Failure} (scan : failure.ofScan = true) :
    statusOf failure = 1 := by
  simp [statusOf, Failure.not_usage_of_ofScan scan]

theorem Locator.exists_eq_invalidUrl {apiBase : String} {owner : Owner}
    {repository : RepositoryName} {number : PullRequestNumber} {failure : Failure}
    (failed : make apiBase owner repository number = .error failure) :
    ∃ message, failure = .invalidUrl message := by
  unfold make at failed
  split at failed
  · exact ⟨_, (Except.error.inj failed).symm⟩
  · split at failed
    · cases failed
    · exact ⟨_, (Except.error.inj failed).symm⟩

namespace Settings

variable {settings : Settings} {environment : Variables} {number : Nat} {failure : Failure}
variable {locator : Locator} {pattern : Pattern}

theorem run_scan_of_locator_error (connection : Remote.Connection)
    (failed : settings.locator number = .error failure) :
    (settings.scan environment number).run connection = ⟨.error failure, [], connection⟩ := by
  simp [scan, Activity.run_bind, failed]

theorem run_scan_of_pattern_error (connection : Remote.Connection)
    (located : settings.locator number = .ok locator)
    (failed : settings.pattern = .error failure) :
    (settings.scan environment number).run connection = ⟨.error failure, [], connection⟩ := by
  simp [scan, Activity.run_bind, located, failed]

theorem run_scan_of_connect_error (connection : Remote.Connection)
    (located : settings.locator number = .ok locator) (compiled : settings.pattern = .ok pattern)
    (failed : Remote.Client.connect (settings.resolveToken environment) locator =
      .error failure) :
    ((settings.scan environment number).run connection).result = .error failure ∧
      ((settings.scan environment number).run connection).state = connection := by
  cases token : settings.resolveToken environment <;> rw [token] at failed <;>
    simp [scan, Activity.run_bind, located, compiled, token, failed]

/-- Once a client is there, a scan is the reading of the links. -/
theorem run_scan_of_connect_ok {client : Remote.Client} (connection : Remote.Connection)
    (located : settings.locator number = .ok locator) (compiled : settings.pattern = .ok pattern)
    (connected : Remote.Client.connect (settings.resolveToken environment) locator = .ok client) :
    ((settings.scan environment number).run connection).result =
        ((client.gateway.links pattern locator).run connection).result ∧
      ((settings.scan environment number).run connection).state =
        ((client.gateway.links pattern locator).run connection).state := by
  cases token : settings.resolveToken environment <;> rw [token] at connected <;>
    simp [scan, Activity.run_bind, located, compiled, token, connected]

theorem ofScan_of_load {flags : List RawText} {surroundings : Surroundings}
    (failed : load flags surroundings = .error failure) : failure.ofScan = true := by
  obtain ⟨fault, -, rfl⟩ := mapError_eq_error_iff.mp failed
  cases fault <;> rfl

/-- A positive number is never what is wrong with a locator. -/
theorem ofScan_of_locator (positive : 0 < number)
    (failed : settings.locator number = .error failure) : failure.ofScan = true := by
  unfold Settings.locator Locator.ofParts at failed
  cases owner : Owner.make settings.ownerText with
  | error fault =>
    simp only [owner, bind, Except.bind, Except.error.injEq] at failed
    rw [Owner.make_eq] at owner
    rw [← failed, eq_of_partOf_error owner]
    rfl
  | ok owner' =>
    cases repository : RepositoryName.make settings.repositoryText with
    | error fault =>
      simp only [owner, repository, bind, Except.bind, Except.error.injEq] at failed
      rw [RepositoryName.make_eq] at repository
      rw [← failed, eq_of_partOf_error repository]
      rfl
    | ok repository' =>
      simp only [owner, repository, PullRequestNumber.make, positive, ↓reduceDIte, bind,
        Except.bind] at failed
      obtain ⟨message, same⟩ := Locator.exists_eq_invalidUrl failed
      rw [same]
      rfl

theorem ofScan_of_pattern (failed : settings.pattern = .error failure) :
    failure.ofScan = true := by
  unfold Settings.pattern Pattern.make at failed
  split at failed
  · cases failed
  · cases failed
    rfl

end Settings

namespace Remote

variable {client : Client} {locator : Locator} {failure : Failure}

theorem ofScan_of_connect {token : Option AccessToken}
    (failed : Client.connect token locator = .error failure) : failure.ofScan = true := by
  unfold Client.connect at failed
  split at failed
  · cases failed
  · cases failed
    rfl

theorem ofScan_failure (operation : Operation) (fault : Fault) :
    (fault.failure operation).ofScan = true := by
  cases fault with
  | rejected status message =>
    cases refused : Status.refused status <;> simp [Fault.failure, refused, Failure.ofScan]
  | address | unreachable | errorBody | body | links => rfl

theorem ofScan_of_mapError {α : Type} {operation : Operation} {result : Except Fault α}
    (failed : result.mapError (Fault.failure operation) = .error failure) :
    failure.ofScan = true := by
  obtain ⟨fault, -, rfl⟩ := mapError_eq_error_iff.mp failed
  exact ofScan_failure operation fault

theorem ofScan_of_pullRequest {connection : Connection}
    (failed : ((client.gateway.pullRequest locator).run connection).result = .error failure) :
    failure.ofScan = true := by
  change (client.pullRequest locator connection.server).result.mapError
    (Fault.failure .pullRequest) = .error failure at failed
  exact ofScan_of_mapError failed

theorem ofScan_of_comments {connection : Connection}
    (failed : ((client.gateway.comments locator).run connection).result = .error failure) :
    failure.ofScan = true := by
  rw [(Client.run_comments client locator connection).1] at failed
  exact ofScan_of_mapError failed

end Remote

end DependencyLinks
