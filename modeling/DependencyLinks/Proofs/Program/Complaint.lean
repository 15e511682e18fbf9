import DependencyLinks.Proofs.Failure.Heading
import DependencyLinks.Proofs.Program.Ending

/-! What the error output of a run tells: the failure that the run complains of, and the status. -/

namespace DependencyLinks

/-- Whichever way a run ends, its status is that of its complaint, and zero without one. -/
theorem Ending.status_eq_of_describes {arguments : List RawText}
    {surroundings : Settings.Surroundings} {server : Remote.Server} {run : Run} {ending : Ending}
    (describes : ending.Describes arguments surroundings server run) :
    run.status = (run.complaint.map Run.statusOf).getD 0 := by
  cases ending with
  | information =>
    obtain ⟨request, _, rfl, _⟩ := describes
    rfl
  | misuse =>
    obtain ⟨_, message, _, rfl, _⟩ := describes
    rfl
  | failure =>
    obtain ⟨_, number, failure, named, stops, closes, _⟩ := describes
    have scan := ofScan_of_stops (CommandLine.pos_of_pullRequestNumber named) stops
    rw [closes.status, closes.complaint]
    exact (Run.statusOf_of_ofScan scan).symm
  | listing =>
    obtain ⟨_, number, links, _, _, closes, _⟩ := describes
    rw [closes.status, closes.complaint]
    rfl

namespace Run

/-- The runs that are left in the end: those of the program, and what becomes of them if the output
cannot be written. -/
inductive Final : Run → Prop where
  | done (arguments : List RawText) (surroundings : Settings.Surroundings)
      (server : Remote.Server) : Final (runProgram arguments surroundings server)
  | unwritten (message : String) : Final (failed (.output message))

variable {run first second : Run}

theorem Final.status_eq (final : run.Final) :
    run.status = (run.complaint.map statusOf).getD 0 := by
  cases final with
  | done arguments surroundings server =>
    obtain ⟨ending, describes⟩ := Ending.exists_describes arguments surroundings server
    exact Ending.status_eq_of_describes describes
  | unwritten message => rfl

theorem statusOf_eq_two_iff (failure : Failure) :
    statusOf failure = 2 ↔ failure.isUsage = true := by
  rw [statusOf]
  split <;> simp [*]

theorem errorOutput_of_none (silent : run.complaint = none) : run.errorOutput = "" := by
  rw [errorOutput, silent]
  rfl

theorem errorOutput_of_some {failure : Failure} (complains : run.complaint = some failure) :
    run.errorOutput = failure.text ++ "\n" := by
  rw [errorOutput, complains]
  rfl

/-- A complaint ends its line, so it is never mistaken for silence. -/
theorem errorOutput_eq_empty_iff : run.errorOutput = "" ↔ run.complaint = none := by
  cases complains : run.complaint with
  | none => simp [errorOutput_of_none complains]
  | some failure => simp [errorOutput_of_some complains]

theorem errorOutput_inj : first.errorOutput = second.errorOutput ↔
    first.complaint = second.complaint := by
  constructor
  · intro same
    cases complains : first.complaint with
    | none => rw [errorOutput_eq_empty_iff.mp (same.symm.trans (errorOutput_of_none complains))]
    | some failure =>
      rw [errorOutput_of_some complains] at same
      cases complains' : second.complaint with
      | none => simp [errorOutput_of_none complains'] at same
      | some failure' =>
        rw [errorOutput_of_some complains', String.append_left_inj] at same
        rw [Failure.text_inj.mp same]
  · intro same
    rw [errorOutput, errorOutput, same]

theorem Final.status_eq_two_iff (final : run.Final) :
    run.status = 2 ↔ "usage: ".toList <+: run.errorOutput.toList := by
  rw [final.status_eq]
  cases complains : run.complaint with
  | none =>
    rw [errorOutput_of_none complains]
    decide +kernel
  | some failure =>
    rw [errorOutput_of_some complains, String.toList_append, Failure.usage_prefix_iff]
    exact statusOf_eq_two_iff failure

end Run

/-- The text of a failure tells its kind and its message, and it begins as a usage fault does only
if it is one. So what stands on the error output tells what a run complains of and its status,
whatever the messages hold. -/
theorem failure_told_by_text :
    (∀ first second : Failure, first.text = second.text ↔ first = second) ∧
    (∀ failure : Failure, "usage: ".toList <+: failure.text.toList ↔ failure.isUsage = true) ∧
    (∀ run : Run, run.Final → (run.status = 2 ↔ "usage: ".toList <+: run.errorOutput.toList)) ∧
    ∀ first second : Run, first.Final → second.Final →
      first.errorOutput = second.errorOutput →
      first.complaint = second.complaint ∧ first.status = second.status := by
  refine ⟨fun first second => Failure.text_inj, ?_, fun run => Run.Final.status_eq_two_iff, ?_⟩
  · intro failure
    rw [← Failure.usage_prefix_iff [], List.append_nil]
  · intro first second final final' same
    have complaint := Run.errorOutput_inj.mp same
    rw [final.status_eq, final'.status_eq, complaint]
    exact ⟨rfl, rfl⟩

private def unnumbered (arguments : List String) : Run :=
  runProgram (arguments.map RawText.ofString) { workingDirectory := "/", file? := fun _ => none }
    .down

/-- Two command lines without a number are told alike, and an output fault that speaks of usage is
still told from them. -/
theorem failure_told_by_text_unnumbered :
    let first := unnumbered ["links"]
    let second := unnumbered ["links", "--owner", "7"]
    let third := Run.failed (.output "usage: ")
    first.Final ∧ second.Final ∧ third.Final ∧ first.errorOutput = second.errorOutput ∧
      first.complaint = second.complaint ∧ first.status = second.status ∧ second.status = 2 ∧
      ¬ third.status = 2 ∧ (Failure.output "usage: ").text ≠ (Failure.usage "usage: ").text := by
  intro first second third
  have final : first.Final := .done ..
  have final' : second.Final := .done ..
  have unwritten : third.Final := .unwritten "usage: "
  have same : first.errorOutput = second.errorOutput := by decide +kernel
  obtain ⟨kinds, -, begins, told⟩ := failure_told_by_text
  obtain ⟨complaint, status⟩ := told first second final final' same
  refine ⟨final, final', unwritten, same, complaint, status, ?_, ?_, ?_⟩
  · exact (begins second final').mpr (by decide +kernel)
  · exact mt (begins third unwritten).mp (by decide +kernel)
  · exact mt (kinds _ _).mp (by decide)

end DependencyLinks
