import DependencyLinks.CommandLine.Split
import DependencyLinks.Scan
import DependencyLinks.Settings.Load
import DependencyLinks.Writer

/-! The program as a whole: from a command line to what it prints and the status it ends with. -/

namespace DependencyLinks

/-- How a run ends, the requests it sent and the events on its way. -/
structure Run where
  status : Nat
  output : String := ""
  complaint : Option Failure := none
  requests : List Remote.Request := []
  events : List Event := []

namespace Run

/-- The status of a failed run tells usage faults from all others. -/
def statusOf (failure : Failure) : Nat :=
  if failure.isUsage then 2 else 1

def failed (failure : Failure) : Run where
  status := statusOf failure
  complaint := some failure

/-- What is written on the error output. -/
def errorOutput (run : Run) : String :=
  (run.complaint.map fun failure => failure.text ++ "\n").getD ""

end Run

/-- Runs the program. A request for information is met before anything else is looked at, and the
number is checked before the settings are loaded. -/
def runProgram (arguments : List RawText) (surroundings : Settings.Surroundings)
    (server : Remote.Server) : Run :=
  let line := CommandLine.split arguments
  match line.info with
  | some request => { status := 0, output := request.text }
  | none =>
    match line.pullRequestNumber with
    | .error failure => Run.failed failure
    | .ok number =>
      match Settings.load line.flags surroundings with
      | .error failure => Run.failed failure
      | .ok settings =>
        let outcome := (settings.scan surroundings.environment number).run { server }
        match outcome.result with
        | .error failure =>
          { Run.failed failure with requests := outcome.state.requests, events := outcome.events }
        | .ok links =>
          { status := 0, output := linesText links
            requests := outcome.state.requests, events := outcome.events }

end DependencyLinks
