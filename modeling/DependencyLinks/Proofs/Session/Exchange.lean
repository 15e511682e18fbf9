import DependencyLinks.Proofs.Gateway
import DependencyLinks.Session
import Mathlib.Data.List.Forall2

/-! Sessions over any gateway: a step loads a pull request first, and what it aims at shows in its
own answer only. -/

namespace DependencyLinks

theorem Activity.run_bind_pure {σ α β : Type} (activity : Activity σ α) (f : α → β) (state : σ) :
    ((activity >>= fun value => pure (f value)).run state).result =
        (activity.run state).result.map f ∧
      ((activity >>= fun value => pure (f value)).run state).state =
        (activity.run state).state := by
  cases result : (activity.run state).result with
  | error failure =>
    rw [run_bind_of_error result]
    exact ⟨rfl, rfl⟩
  | ok value =>
    rw [run_bind_of_ok result]
    exact ⟨rfl, rfl⟩

namespace Session

variable {σ : Type}

/-- What a step answers once a pull request is loaded. -/
def Aim.answer (pattern : Pattern) : Aim → Details → Answer
  | .load, details => .details details
  | .extract, details => .links (pattern.linksInAll details.bodies)

/-- The loading in a step, whatever its aim. -/
def Step.reading (gateway : Gateway σ) (step : Step) : Activity σ Details := do
  gateway.load (← Activity.ofExcept step.locator)

theorem run_reading_of_located {step : Step} {locator : Locator}
    (located : step.locator = .ok locator) (gateway : Gateway σ) (state : σ) :
    (step.reading gateway).run state = (gateway.load locator).run state := by
  rw [Step.reading, located]
  rfl

theorem run_reading_of_unlocated {step : Step} {failure : Failure}
    (unlocated : step.locator = .error failure) (gateway : Gateway σ) (state : σ) :
    (step.reading gateway).run state = ⟨.error failure, [], state⟩ := by
  rw [Step.reading, unlocated]
  rfl

/-- A step loads a pull request and answers by its aim. The aim plays no other part. -/
theorem run_activity (gateway : Gateway σ) (pattern : Pattern) (step : Step) (state : σ) :
    ((step.activity gateway pattern).run state).result =
        ((step.reading gateway).run state).result.map (step.aim.answer pattern) ∧
      ((step.activity gateway pattern).run state).state =
        ((step.reading gateway).run state).state := by
  cases located : step.locator with
  | error failure =>
    rw [run_reading_of_unlocated located, Step.activity, located]
    exact ⟨rfl, rfl⟩
  | ok locator =>
    rw [run_reading_of_located located, Step.activity, located]
    cases step.aim with
    | load => exact Activity.run_bind_pure (gateway.load locator) Answer.details state
    | extract =>
      obtain ⟨result, left⟩ := gateway.run_links pattern locator state
      have answered := Activity.run_bind_pure (gateway.links pattern locator) Answer.links state
      refine ⟨answered.1.trans ?_, answered.2.trans left⟩
      rw [result]
      cases ((gateway.load locator).run state).result <;> rfl

/-- What steps leave behind. -/
def leave (gateway : Gateway σ) (pattern : Pattern) (steps : List Step) (state : σ) : σ :=
  ((run gateway pattern steps state).map (·.state)).getLastD state

theorem leave_cons (gateway : Gateway σ) (pattern : Pattern) (step : Step) (steps : List Step)
    (state : σ) :
    leave gateway pattern (step :: steps) state =
      leave gateway pattern steps ((step.activity gateway pattern).run state).state :=
  List.getLastD_cons

theorem run_append (gateway : Gateway σ) (pattern : Pattern) (before after : List Step)
    (state : σ) :
    run gateway pattern (before ++ after) state =
      run gateway pattern before state ++
        run gateway pattern after (leave gateway pattern before state) := by
  induction before generalizing state with
  | nil => rfl
  | cons step before ih =>
    rw [leave_cons]
    exact congrArg (_ :: ·) (ih _)

theorem length_run (gateway : Gateway σ) (pattern : Pattern) (steps : List Step) (state : σ) :
    (run gateway pattern steps state).length = steps.length := by
  induction steps generalizing state with
  | nil => rfl
  | cons step steps ih => exact congrArg (· + 1) (ih _)

theorem leave_append (gateway : Gateway σ) (pattern : Pattern) (before after : List Step)
    (state : σ) :
    leave gateway pattern (before ++ after) state =
      leave gateway pattern after (leave gateway pattern before state) := by
  induction before generalizing state with
  | nil => rfl
  | cons step before ih => rw [List.cons_append, leave_cons, leave_cons, ih]

/-- Sessions over the same locators go alike, whatever their steps aim at: they leave the same
states, and what two steps answer at one place is made of one reading. -/
theorem run_exchange (gateway : Gateway σ) (pattern : Pattern)
    {steps others : List Step}
    (same : List.Forall₂ (fun step other => step.locator = other.locator) steps others)
    (state : σ) :
    (run gateway pattern others state).map (·.state) =
        (run gateway pattern steps state).map (·.state) ∧
      ∀ (place : Nat) (step other : Step) (outcome outcome' : Outcome σ Answer),
        steps[place]? = some step → others[place]? = some other →
        (run gateway pattern steps state)[place]? = some outcome →
        (run gateway pattern others state)[place]? = some outcome' →
        ∃ read : Except Failure Details,
          outcome.result = read.map (step.aim.answer pattern) ∧
          outcome'.result = read.map (other.aim.answer pattern) := by
  induction same generalizing state with
  | nil =>
    refine ⟨rfl, ?_⟩
    intro place step other outcome outcome' atStep
    rw [List.getElem?_nil] at atStep
    cases atStep
  | @cons first first' steps others located _ ih =>
    obtain ⟨result, left⟩ := run_activity gateway pattern first state
    obtain ⟨result', left'⟩ := run_activity gateway pattern first' state
    have one : first'.reading gateway = first.reading gateway := by
      rw [Step.reading, Step.reading, located]
    rw [one] at result' left'
    have level : ((first'.activity gateway pattern).run state).state =
        ((first.activity gateway pattern).run state).state := left'.trans left.symm
    obtain ⟨states, results⟩ := ih ((first.activity gateway pattern).run state).state
    have later : run gateway pattern (first' :: others) state =
        (first'.activity gateway pattern).run state ::
          run gateway pattern others ((first.activity gateway pattern).run state).state := by
      rw [run, level]
    rw [later]
    refine ⟨?_, ?_⟩
    · rw [List.map_cons, level, states]
      rfl
    · rintro (_ | place) step other outcome outcome' atStep atOther atOutcome atOutcome'
      · obtain rfl := Option.some.inj atStep
        obtain rfl := Option.some.inj atOther
        obtain rfl := Option.some.inj atOutcome
        obtain rfl := Option.some.inj atOutcome'
        exact ⟨_, result, result'⟩
      · exact results place step other outcome outcome' atStep atOther atOutcome atOutcome'

end Session

end DependencyLinks
