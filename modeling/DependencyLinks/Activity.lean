import DependencyLinks.Event
import DependencyLinks.Failure

/-! Steps that may fail, go on from a state and report events. A failure ends the steps behind it
but takes back neither the state nor the events of those before. -/

namespace DependencyLinks

structure Outcome (σ α : Type) where
  result : Except Failure α
  events : List Event
  state : σ

def Activity (σ α : Type) : Type := σ → Outcome σ α

namespace Activity

variable {σ α β : Type}

def run (activity : Activity σ α) (state : σ) : Outcome σ α :=
  activity state

def andThen (first : Activity σ α) (next : α → Activity σ β) : Activity σ β := fun state =>
  match first state with
  | ⟨.error failure, events, state⟩ => ⟨.error failure, events, state⟩
  | ⟨.ok value, events, state⟩ =>
    let later := next value state
    { later with events := events ++ later.events }

instance : Monad (Activity σ) where
  pure value := fun state => ⟨.ok value, [], state⟩
  bind := andThen

/-- A step that leaves the state alone. -/
def ofExcept (result : Except Failure α) : Activity σ α :=
  fun state => ⟨result, [], state⟩

def report (event : Event) : Activity σ Unit :=
  fun state => ⟨.ok (), [event], state⟩

@[simp] theorem run_pure (value : α) (state : σ) :
    (pure value : Activity σ α).run state = ⟨.ok value, [], state⟩ := rfl

@[simp] theorem run_report (event : Event) (state : σ) :
    (report event).run state = ⟨.ok (), [event], state⟩ := rfl

@[simp] theorem run_ofExcept (result : Except Failure α) (state : σ) :
    (ofExcept result : Activity σ α).run state = ⟨result, [], state⟩ := rfl

theorem run_bind (first : Activity σ α) (next : α → Activity σ β) (state : σ) :
    (first >>= next).run state =
      match first.run state with
      | ⟨.error failure, events, state⟩ => ⟨.error failure, events, state⟩
      | ⟨.ok value, events, state⟩ =>
        ⟨((next value).run state).result, events ++ ((next value).run state).events,
          ((next value).run state).state⟩ := rfl

theorem run_report_bind (event : Event) (next : Unit → Activity σ β) (state : σ) :
    (report event >>= next).run state =
      ⟨((next ()).run state).result, event :: ((next ()).run state).events,
        ((next ()).run state).state⟩ := rfl

theorem run_bind_of_error {first : Activity σ α} {state : σ} {failure : Failure}
    (failed : (first.run state).result = .error failure) (next : α → Activity σ β) :
    (first >>= next).run state =
      ⟨.error failure, (first.run state).events, (first.run state).state⟩ := by
  rw [run_bind]
  rcases outcome : first.run state with ⟨result, events, after⟩
  rw [outcome] at failed
  cases failed
  rfl

theorem run_bind_of_ok {first : Activity σ α} {state : σ} {value : α}
    (done : (first.run state).result = .ok value) (next : α → Activity σ β) :
    (first >>= next).run state =
      ⟨((next value).run (first.run state).state).result,
        (first.run state).events ++ ((next value).run (first.run state).state).events,
        ((next value).run (first.run state).state).state⟩ := by
  rw [run_bind]
  rcases outcome : first.run state with ⟨result, events, after⟩
  rw [outcome] at done
  cases done
  rfl

end Activity

end DependencyLinks
