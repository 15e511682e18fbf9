import DependencyLinks.Proofs.Program.Stages
import DependencyLinks.Proofs.Writer.Taken
import Mathlib.Logic.ExistsUnique

/-! How a run ends: with information, over misuse of the command line, at a stage of the scan that
fails, or with the list of links. -/

namespace DependencyLinks

/-- What a scan has to have before it asks anyone. -/
structure Ready (flags : List RawText) (surroundings : Settings.Surroundings) (number : Nat) where
  settings : Settings
  locator : Locator
  pattern : Pattern
  client : Remote.Client
  loaded : Settings.load flags surroundings = .ok settings
  located : settings.locator number = .ok locator
  compiled : settings.pattern = .ok pattern
  connected : Remote.Client.connect (settings.resolveToken surroundings.environment) locator =
    .ok client

section

variable {flags : List RawText} {surroundings : Settings.Surroundings} {number : Nat}

def Ready.pullRequest (ready : Ready flags surroundings number) (server : Remote.Server) :
    Outcome Remote.Connection Metadata :=
  (ready.client.gateway.pullRequest ready.locator).run { server }

def Ready.comments (ready : Ready flags surroundings number) (server : Remote.Server) :
    Outcome Remote.Connection (List Comment) :=
  (ready.client.gateway.comments ready.locator).run (ready.pullRequest server).state

end

/-- The stages of a run behind its number. The first one that fails gives its failure. -/
inductive Stops (flags : List RawText) (surroundings : Settings.Surroundings) (number : Nat)
    (server : Remote.Server) : Failure → Prop where
  | settings {failure : Failure} (failed : Settings.load flags surroundings = .error failure) :
      Stops flags surroundings number server failure
  | locator {settings : Settings} {failure : Failure}
      (loaded : Settings.load flags surroundings = .ok settings)
      (failed : settings.locator number = .error failure) :
      Stops flags surroundings number server failure
  | pattern {settings : Settings} {locator : Locator} {failure : Failure}
      (loaded : Settings.load flags surroundings = .ok settings)
      (located : settings.locator number = .ok locator)
      (failed : settings.pattern = .error failure) :
      Stops flags surroundings number server failure
  | client {settings : Settings} {locator : Locator} {pattern : Pattern} {failure : Failure}
      (loaded : Settings.load flags surroundings = .ok settings)
      (located : settings.locator number = .ok locator)
      (compiled : settings.pattern = .ok pattern)
      (failed : Remote.Client.connect (settings.resolveToken surroundings.environment) locator =
        .error failure) :
      Stops flags surroundings number server failure
  | pullRequest {failure : Failure} (ready : Ready flags surroundings number)
      (failed : (ready.pullRequest server).result = .error failure) :
      Stops flags surroundings number server failure
  | comments {metadata : Metadata} {failure : Failure} (ready : Ready flags surroundings number)
      (answered : (ready.pullRequest server).result = .ok metadata)
      (failed : (ready.comments server).result = .error failure) :
      Stops flags surroundings number server failure

/-- Every stage succeeds, and the comments declare these links. -/
inductive Gives (flags : List RawText) (surroundings : Settings.Surroundings) (number : Nat)
    (server : Remote.Server) : List String → Prop where
  | links {metadata : Metadata} {comments : List Comment}
      (ready : Ready flags surroundings number)
      (answered : (ready.pullRequest server).result = .ok metadata)
      (read : (ready.comments server).result = .ok comments) :
      Gives flags surroundings number server
        (ready.pattern.linksInAll (Comment.bodies comments))

section

variable {flags : List RawText} {surroundings : Settings.Surroundings} {number : Nat}
variable {server : Remote.Server} {failure : Failure} {links : List String}

/-- There is always a first stage that fails, unless none does. -/
theorem stops_or_gives (flags : List RawText) (surroundings : Settings.Surroundings)
    (number : Nat) (server : Remote.Server) :
    (∃ failure, Stops flags surroundings number server failure) ∨
      ∃ links, Gives flags surroundings number server links := by
  cases loaded : Settings.load flags surroundings with
  | error failure => exact .inl ⟨failure, .settings loaded⟩
  | ok settings =>
  cases located : settings.locator number with
  | error failure => exact .inl ⟨failure, .locator loaded located⟩
  | ok locator =>
  cases compiled : settings.pattern with
  | error failure => exact .inl ⟨failure, .pattern loaded located compiled⟩
  | ok pattern =>
  cases connected :
      Remote.Client.connect (settings.resolveToken surroundings.environment) locator with
  | error failure => exact .inl ⟨failure, .client loaded located compiled connected⟩
  | ok client =>
  let ready : Ready flags surroundings number :=
    { settings, locator, pattern, client, loaded, located, compiled, connected }
  cases answered : (ready.pullRequest server).result with
  | error failure => exact .inl ⟨failure, .pullRequest ready answered⟩
  | ok metadata =>
  cases read : (ready.comments server).result with
  | error failure => exact .inl ⟨failure, .comments ready answered read⟩
  | ok comments => exact .inr ⟨_, .links ready answered read⟩

theorem ofScan_of_stops (positive : 0 < number)
    (stops : Stops flags surroundings number server failure) : failure.ofScan = true := by
  cases stops with
  | settings failed => exact Settings.ofScan_of_load failed
  | locator _ failed => exact Settings.ofScan_of_locator positive failed
  | pattern _ _ failed => exact Settings.ofScan_of_pattern failed
  | client _ _ _ failed => exact Remote.ofScan_of_connect failed
  | pullRequest ready failed => exact Remote.ofScan_of_pullRequest failed
  | comments ready _ failed => exact Remote.ofScan_of_comments failed

/-- Behind the loading of settings, a stage that fails is a failed scan. -/
theorem result_scan_of_stops (stops : Stops flags surroundings number server failure) :
    Settings.load flags surroundings = .error failure ∨
      ∃ settings : Settings, Settings.load flags surroundings = .ok settings ∧
        ((settings.scan surroundings.environment number).run { server }).result =
          .error failure := by
  cases stops with
  | settings failed => exact .inl failed
  | locator loaded failed =>
    refine .inr ⟨_, loaded, ?_⟩
    rw [Settings.run_scan_of_locator_error { server } failed]
  | pattern loaded located failed =>
    refine .inr ⟨_, loaded, ?_⟩
    rw [Settings.run_scan_of_pattern_error { server } located failed]
  | client loaded located compiled failed =>
    exact .inr ⟨_, loaded,
      (Settings.run_scan_of_connect_error { server } located compiled failed).1⟩
  | pullRequest ready failed =>
    refine .inr ⟨ready.settings, ready.loaded, ?_⟩
    rw [(Settings.run_scan_of_connect_ok { server } ready.located ready.compiled ready.connected).1,
      Gateway.run_links_of_pullRequest_error ready.pattern failed]
  | comments ready answered failed =>
    refine .inr ⟨ready.settings, ready.loaded, ?_⟩
    rw [(Settings.run_scan_of_connect_ok { server } ready.located ready.compiled ready.connected).1]
    exact (Gateway.run_links_of_comments_error ready.pattern answered failed).1

theorem result_scan_of_gives (gives : Gives flags surroundings number server links) :
    ∃ settings : Settings, Settings.load flags surroundings = .ok settings ∧
      ((settings.scan surroundings.environment number).run { server }).result = .ok links := by
  cases gives with
  | links ready answered read =>
    refine ⟨ready.settings, ready.loaded, ?_⟩
    rw [(Settings.run_scan_of_connect_ok { server } ready.located ready.compiled ready.connected).1]
    exact (Gateway.run_links_of_comments_ok ready.pattern answered read).1

end

/-- What a run prints and how it ends, requests and events aside. -/
structure Run.Closes (run : Run) (status : Nat) (output : String) (complaint : Option Failure) :
    Prop where
  status : run.status = status
  output : run.output = output
  complaint : run.complaint = complaint

section

variable {arguments : List RawText} {surroundings : Settings.Surroundings} {number : Nat}
variable {server : Remote.Server} {failure : Failure} {links : List String}

theorem runProgram_of_stops (noInfo : (CommandLine.split arguments).info = none)
    (named : (CommandLine.split arguments).pullRequestNumber = .ok number)
    (stops : Stops (CommandLine.split arguments).flags surroundings number server failure) :
    (runProgram arguments surroundings server).Closes (Run.statusOf failure) ""
      (some failure) := by
  rcases result_scan_of_stops stops with failed | ⟨settings, loaded, failed⟩
  · simp only [runProgram, noInfo, named, failed]
    exact ⟨rfl, rfl, rfl⟩
  · simp only [runProgram, noInfo, named, loaded, failed]
    exact ⟨rfl, rfl, rfl⟩

theorem runProgram_of_gives (noInfo : (CommandLine.split arguments).info = none)
    (named : (CommandLine.split arguments).pullRequestNumber = .ok number)
    (gives : Gives (CommandLine.split arguments).flags surroundings number server links) :
    (runProgram arguments surroundings server).Closes 0 (linesText links) none := by
  obtain ⟨settings, loaded, read⟩ := result_scan_of_gives gives
  simp only [runProgram, noInfo, named, loaded, read]
  exact ⟨rfl, rfl, rfl⟩

end

/-- The ways a run can end. -/
inductive Ending where
  | information
  | misuse
  | failure
  | listing
deriving DecidableEq, Repr

/-- When a run ends in a way, and what it leaves behind then. -/
def Ending.Describes (arguments : List RawText) (surroundings : Settings.Surroundings)
    (server : Remote.Server) (run : Run) : Ending → Prop
  | .information =>
    ∃ request, (CommandLine.split arguments).info = some request ∧
      run = { status := 0, output := request.text } ∧ run.errorOutput = "" ∧
      ∀ elsewhere other, runProgram arguments elsewhere other = run
  | .misuse =>
    (CommandLine.split arguments).info = none ∧
    ∃ message, (CommandLine.split arguments).pullRequestNumber = .error (.usage message) ∧
      run = { status := 2, complaint := some (.usage message) } ∧
      run.errorOutput = (Failure.usage message).text ++ "\n" ∧
      ∀ elsewhere other, runProgram arguments elsewhere other = run
  | .failure =>
    (CommandLine.split arguments).info = none ∧
    ∃ number failure, (CommandLine.split arguments).pullRequestNumber = .ok number ∧
      Stops (CommandLine.split arguments).flags surroundings number server failure ∧
      run.Closes 1 "" (some failure) ∧ run.errorOutput = failure.text ++ "\n"
  | .listing =>
    (CommandLine.split arguments).info = none ∧
    ∃ number links, (CommandLine.split arguments).pullRequestNumber = .ok number ∧
      Gives (CommandLine.split arguments).flags surroundings number server links ∧
      run.Closes 0 (linesText links) none ∧ run.errorOutput = "" ∧
      ∀ device : Device, device.TakesAll →
        (Writer.print { device } links).1 = .ok () ∧
          (Writer.print { device } links).2.taken = RawText.ofString run.output

namespace Ending

def status : Ending → Nat
  | information | listing => 0
  | failure => 1
  | misuse => 2

variable {arguments : List RawText} {surroundings : Settings.Surroundings}
variable {server : Remote.Server} {run : Run}

theorem exists_describes (arguments : List RawText) (surroundings : Settings.Surroundings)
    (server : Remote.Server) :
    ∃ ending : Ending, ending.Describes arguments surroundings server
      (runProgram arguments surroundings server) := by
  cases info : (CommandLine.split arguments).info with
  | some request =>
    have runs : ∀ elsewhere other, runProgram arguments elsewhere other =
        { status := 0, output := request.text } := by
      intro elsewhere other
      simp only [runProgram, info]
    rw [runs]
    exact ⟨.information, request, info, rfl, rfl, runs⟩
  | none =>
    cases named : (CommandLine.split arguments).pullRequestNumber with
    | error failure =>
      obtain ⟨message, rfl⟩ := CommandLine.exists_usage_of_pullRequestNumber named
      have runs : ∀ elsewhere other, runProgram arguments elsewhere other =
          { status := 2, complaint := some (.usage message) } := by
        intro elsewhere other
        simp only [runProgram, info, named]
        rfl
      rw [runs]
      exact ⟨.misuse, info, message, named, rfl, rfl, runs⟩
    | ok number =>
      rcases stops_or_gives (CommandLine.split arguments).flags surroundings number server with
        ⟨failure, stops⟩ | ⟨links, gives⟩
      · have closes := runProgram_of_stops info named stops
        have scan := ofScan_of_stops (CommandLine.pos_of_pullRequestNumber named) stops
        rw [Run.statusOf_of_ofScan scan] at closes
        refine ⟨.failure, info, number, failure, named, stops, closes, ?_⟩
        simp [Run.errorOutput, closes.complaint]
      · have closes := runProgram_of_gives info named gives
        refine ⟨.listing, info, number, links, named, gives, closes, ?_, ?_⟩
        · simp [Run.errorOutput, closes.complaint]
        · intro device takesAll
          obtain ⟨done, taken, _⟩ := Writer.print_of_takesAll takesAll links
          rw [closes.output]
          exact ⟨done, taken⟩

end Ending

end DependencyLinks
