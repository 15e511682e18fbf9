import DependencyLinks.Proofs.Session.Exchange
import Mathlib.Data.List.Induction

/-! Sessions over a script: the calls that a step makes, the answers that it takes from the two
queues, and what comes of it. -/

namespace DependencyLinks

namespace Call

def isPullRequest : Call → Bool
  | pullRequest .. => true
  | comments .. => false

def isComments : Call → Bool
  | pullRequest .. => false
  | comments .. => true

end Call

namespace Session

/-- The step can ask for its pull request. -/
def Step.asks (step : Step) : Bool :=
  step.locator.isOk

/-- How many of some steps ask for a pull request. -/
def asked (steps : List Step) : Nat :=
  steps.countP Step.asks

/-- How many of the steps that ask, in order, find a pull request in the answers, in order. -/
def answered (script : Script) (steps : List Step) : Nat :=
  ((steps.filter Step.asks).zip script.pullRequests).countP (·.2.isOk)

end Session

namespace Script

open Session

/-- The answer that a step behind others gets for its pull request. -/
def metadataBehind (script : Script) (before : List Step) : Except Failure Metadata :=
  script.pullRequests.getD (asked before) (.error exhausted)

/-- The answer that a step behind others gets for its thread. -/
def threadBehind (script : Script) (before : List Step) : Except Failure (List Comment) :=
  script.comments.getD (answered script before) (.error exhausted)

end Script

namespace Session

/-- What a step behind others loads: the first failure on its way ends it. -/
def Step.heard (script : Script) (before : List Step) (step : Step) : Except Failure Details := do
  let _ ← step.locator
  let metadata ← script.metadataBehind before
  let comments ← script.threadBehind before
  return { metadata, comments }

/-- The calls of a step behind others: none without a locator, and the comments only behind a pull
request that was found. -/
def Step.calls (script : Script) (before : List Step) (step : Step) : List Call :=
  match step.locator with
  | .error _ => []
  | .ok ⟨_, owner, repository, number⟩ =>
    .pullRequest owner repository number ::
      if (script.metadataBehind before).isOk then [.comments owner repository number] else []

theorem asked_append (before : List Step) (step : Step) :
    asked (before ++ [step]) = asked before + if step.asks then 1 else 0 := by
  rw [asked, asked, List.countP_append, List.countP_singleton]

theorem answered_eq (script : Script) (steps : List Step) :
    answered script steps = (script.pullRequests.take (asked steps)).countP (·.isOk) := by
  have zipped : ∀ (asking : List Step) (answers : List (Except Failure Metadata)),
      (asking.zip answers).countP (·.2.isOk) =
        (answers.take asking.length).countP (·.isOk) := by
    intro asking
    induction asking with
    | nil => simp
    | cons step asking ih =>
      rintro (_ | ⟨answer, answers⟩)
      · rfl
      · simp [List.countP_cons, ih]
  rw [answered, zipped, ← List.countP_eq_length_filter]
  rfl

theorem answered_append (script : Script) (before : List Step) (step : Step) :
    answered script (before ++ [step]) =
      answered script before +
        if step.asks && (script.metadataBehind before).isOk then 1 else 0 := by
  rw [answered_eq, answered_eq, asked_append]
  cases step.asks with
  | false => rfl
  | true =>
    rw [if_pos rfl, List.take_add_one, List.countP_append, Script.metadataBehind,
      List.getD_eq_getElem?_getD]
    cases script.pullRequests[asked before]? with
    | none => rfl
    | some answer => simp [List.countP_singleton]

/-- Where a script is once steps are taken: each queue stands behind the answers that the steps
took, and as many calls were made. -/
structure Behind (script : Script) (before : List Step) (now : Script) : Prop where
  pullRequests : now.pullRequests = script.pullRequests.drop (asked before)
  comments : now.comments = script.comments.drop (answered script before)
  calls : now.calls = script.calls ++ now.callsSince script
  asks : (now.callsSince script).countP Call.isPullRequest = asked before
  reads : (now.callsSince script).countP Call.isComments = answered script before

variable {script now : Script} {before : List Step} {step : Step}

theorem callsSince_append {later : Script} {made : List Call} (behind : Behind script before now)
    (calls : later.calls = now.calls ++ made) :
    later.callsSince script = now.callsSince script ++ made := by
  rw [Script.callsSince, calls, behind.calls, List.append_assoc, List.drop_left]

/-- What a step behind others does to a script. -/
structure Takes (script : Script) (before : List Step) (step : Step) (now : Script)
    (outcome : Outcome Script Details) : Prop where
  result : outcome.result = step.heard script before
  calls : outcome.state.calls = now.calls ++ step.calls script before
  pullRequests : outcome.state.pullRequests =
    now.pullRequests.drop (if step.asks then 1 else 0)
  comments : outcome.state.comments =
    now.comments.drop (if step.asks && (script.metadataBehind before).isOk then 1 else 0)

/-- A step takes the next answer of each queue that it asks, and no other. -/
theorem takes_of_behind (behind : Behind script before now) :
    Takes script before step now ((step.reading Script.gateway).run now) := by
  cases located : step.locator with
  | error failure =>
    rw [run_reading_of_unlocated located]
    have silent : step.asks = false := by rw [Step.asks, located]; rfl
    exact {
      result := by rw [Step.heard, located]; rfl
      calls := by rw [Step.calls, located, List.append_nil]
      pullRequests := by rw [silent]; rfl
      comments := by rw [silent]; rfl }
  | ok locator =>
    rw [run_reading_of_located located]
    have asks : step.asks = true := by rw [Step.asks, located]; rfl
    have answer : ((Script.gateway.pullRequest locator).run now).result =
        script.metadataBehind before := by
      simp [Script.gateway, Activity.run, behind.pullRequests, Script.metadataBehind]
    have thread : ((Script.gateway.comments locator).run
        ((Script.gateway.pullRequest locator).run now).state).result =
          script.threadBehind before := by
      simp [Script.gateway, Activity.run, behind.comments, Script.threadBehind]
    cases found : script.metadataBehind before with
    | error failure =>
      have stopped : (Script.gateway.load locator).run now = _ :=
        Activity.run_bind_of_error (answer.trans found) _
      rw [stopped]
      exact {
        result := by rw [Step.heard, located, found]; rfl
        calls := by rw [Step.calls, located, found]; rfl
        pullRequests := by rw [asks]; exact List.drop_one.symm
        comments := by rw [asks, found]; rfl }
    | ok metadata =>
      have left : ((Script.gateway.load locator).run now).state =
          ((Script.gateway.comments locator).run
            ((Script.gateway.pullRequest locator).run now).state).state ∧
          ((Script.gateway.load locator).run now).result = step.heard script before := by
        rw [Step.heard, located, found]
        cases read : script.threadBehind before with
        | error failure =>
          exact (Gateway.run_load_of_comments_error (answer.trans found)
            (thread.trans read)).symm
        | ok comments =>
          exact (Gateway.run_load_of_comments_ok (answer.trans found) (thread.trans read)).symm
      exact {
        result := left.2
        calls := by rw [left.1, Step.calls, located, found]; exact List.append_assoc ..
        pullRequests := by rw [left.1, asks]; exact List.drop_one.symm
        comments := by rw [left.1, asks, found]; exact List.drop_one.symm }

theorem countP_calls (script : Script) (before : List Step) (step : Step) :
    (step.calls script before).countP Call.isPullRequest = (if step.asks then 1 else 0) ∧
      (step.calls script before).countP Call.isComments =
        if step.asks && (script.metadataBehind before).isOk then 1 else 0 := by
  unfold Step.calls Step.asks
  cases step.locator with
  | error failure => exact ⟨rfl, rfl⟩
  | ok locator => cases (script.metadataBehind before).isOk <;> exact ⟨rfl, rfl⟩

/-- What one step keeps: behind it both queues and both counts of calls have moved alike. -/
theorem behind_append (behind : Behind script before now) {outcome : Outcome Script Details}
    (takes : Takes script before step now outcome) :
    Behind script (before ++ [step]) outcome.state := by
  have made := callsSince_append behind takes.calls
  obtain ⟨asks, reads⟩ := countP_calls script before step
  exact {
    pullRequests := by
      rw [takes.pullRequests, behind.pullRequests, List.drop_drop, asked_append]
    comments := by rw [takes.comments, behind.comments, List.drop_drop, answered_append]
    calls := by rw [made, takes.calls, ← List.append_assoc, ← behind.calls]
    asks := by rw [made, List.countP_append, behind.asks, asks, asked_append]
    reads := by rw [made, List.countP_append, behind.reads, reads, answered_append] }

theorem behind_nil (script : Script) : Behind script [] script := by
  have none : script.callsSince script = [] := List.drop_length
  constructor <;> simp [none, asked, answered]

/-- What a whole session keeps, from step to step. -/
theorem behind_leave (pattern : Pattern) (script : Script) (steps : List Step) :
    Behind script steps (leave Script.gateway pattern steps script) := by
  induction steps using List.reverseRecOn with
  | nil => exact behind_nil script
  | append_singleton steps step ih =>
    have left := (run_activity Script.gateway pattern step
      (leave Script.gateway pattern steps script)).2
    rw [leave_append, leave_cons, left]
    exact behind_append ih (takes_of_behind ih)

/-- Details as the links that they declare. -/
def Answer.asLinks (pattern : Pattern) : Answer → Answer
  | .details loaded => .links (pattern.linksInAll loaded.bodies)
  | .links found => .links found

/-- A session over a script. A step without a locator makes no call and takes no answer. Any other
asks for its pull request once, and for the comments once behind it if it got one, and each call
takes the answer of its queue that comes next: so many as the steps before have left. What a step
hears is its result, a failure unchanged. Steps that aim at something else on the same locators
change no state, so no call, and no result but their own, which are made of the same details. -/
theorem session_over_script (pattern : Pattern) (script : Script) :
    (∀ (before : List Step) (step : Step) (after : List Step),
      ∃ outcome,
        (run Script.gateway pattern (before ++ step :: after) script)[before.length]? =
          some outcome ∧
        outcome.result = (step.heard script before).map (step.aim.answer pattern) ∧
        outcome.state.calls =
          (leave Script.gateway pattern before script).calls ++ step.calls script before ∧
        Behind script before (leave Script.gateway pattern before script) ∧
        Behind script (before ++ [step]) outcome.state) ∧
    ∀ steps others : List Step,
      List.Forall₂ (fun step other => step.locator = other.locator) steps others →
      (run Script.gateway pattern others script).map (·.state) =
          (run Script.gateway pattern steps script).map (·.state) ∧
        ∀ (place : Nat) (step other : Step) (outcome outcome' : Outcome Script Answer),
          steps[place]? = some step → others[place]? = some other →
          (run Script.gateway pattern steps script)[place]? = some outcome →
          (run Script.gateway pattern others script)[place]? = some outcome' →
          (step.aim = other.aim → outcome'.result = outcome.result) ∧
          (step.aim = .load → other.aim = .extract →
            outcome'.result = outcome.result.map (Answer.asLinks pattern)) := by
  constructor
  · intro before step after
    have behind := behind_leave pattern script before
    obtain ⟨result, left⟩ := run_activity Script.gateway pattern step
      (leave Script.gateway pattern before script)
    have takes : Takes script before step _ _ := takes_of_behind behind
    refine ⟨(step.activity Script.gateway pattern).run
      (leave Script.gateway pattern before script), ?_, ?_, ?_, behind, ?_⟩
    · have long : (run Script.gateway pattern before script).length = before.length :=
        length_run ..
      rw [run_append, List.getElem?_append_right (Nat.le_of_eq long), long, Nat.sub_self]
      rfl
    · rw [result, takes.result]
    · rw [left, takes.calls]
    · rw [left]
      exact behind_append behind takes
  · intro steps others same
    obtain ⟨states, results⟩ := run_exchange Script.gateway pattern same script
    refine ⟨states, ?_⟩
    intro place step other outcome outcome' atStep atOther atOutcome atOutcome'
    obtain ⟨read, result, result'⟩ :=
      results place step other outcome outcome' atStep atOther atOutcome atOutcome'
    rw [result, result']
    constructor
    · intro aims
      rw [aims]
    · intro load extract
      rw [load, extract]
      cases read <;> rfl

/-- Three answers for pull requests, one of them a failure, and two for threads. -/
private def shortScript : Script where
  pullRequests := [.ok { number := 1 }, .error (.network "lost"), .ok { number := 3 }]
  comments := [.ok [{ id := 1, body := some "depends: https://github.com/a" }], .error (.api "late")]

/-- Four steps, of which the second has no owner. -/
private def mixedSteps (aim : Aim) : List Step :=
  [⟨aim, "https://h", "o", "r", 1⟩, ⟨.load, "https://h", " ", "r", 1⟩,
    ⟨.load, "https://h", "o", "r", 2⟩, ⟨.extract, "https://h", "o", "r", 3⟩]

private def plainPattern : Pattern where
  marker := Pattern.defaultMarker
  linkStart := Pattern.defaultLinkStart
  fits := Nat.le_of_ble_eq_true rfl

theorem session_over_script_mixed :
    List.Forall₂ (fun step other => step.locator = other.locator)
      (mixedSteps .load) (mixedSteps .extract) ∧
    (run Script.gateway plainPattern (mixedSteps .extract) shortScript).map (·.state) =
      (run Script.gateway plainPattern (mixedSteps .load) shortScript).map (·.state) ∧
    asked (mixedSteps .load) = 3 ∧ answered shortScript (mixedSteps .load) = 2 := by
  have same : List.Forall₂ (fun step other => step.locator = other.locator)
      (mixedSteps .load) (mixedSteps .extract) :=
    .cons rfl (.cons rfl (.cons rfl (.cons rfl .nil)))
  have alike := (session_over_script plainPattern shortScript).2 _ _ same
  exact ⟨same, alike.1, by decide +kernel, by decide +kernel⟩

end Session

end DependencyLinks
