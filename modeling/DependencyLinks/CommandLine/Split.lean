import DependencyLinks.CommandLine.Argument
import DependencyLinks.Failure
import DependencyLinks.Text.Decimal
import DependencyLinks.Text.Quoted

/-! A command line cut into positional arguments and the flags that carry settings. -/

namespace DependencyLinks

structure CommandLine where
  positionals : List RawText := []
  flags : List RawText := []
  unknown : List String := []
  info : Option InfoRequest := none
deriving DecidableEq, Repr

/-- Why a command line names no pull request. -/
inductive UsageFault where
  | unrecognised (name : String)
  | positionalCount (count : Nat)
  | notPositive (text : String)
deriving DecidableEq, Repr

def UsageFault.message : UsageFault → String
  | unrecognised name =>
    "unrecognised option " ++ Text.quoted name ++ " (" ++ InfoRequest.usageLine ++ ")"
  | positionalCount count =>
    "expected exactly one pull request number, got " ++ toString count ++
      " (" ++ InfoRequest.usageLine ++ ")"
  | notPositive text =>
    "pull request number must be a positive integer, got " ++ Text.quoted text

namespace CommandLine

/-- Two stretches of a command line, one behind the other. -/
def join (a b : CommandLine) : CommandLine where
  positionals := a.positionals ++ b.positionals
  flags := a.flags ++ b.flags
  unknown := a.unknown ++ b.unknown
  info := InfoRequest.outranking a.info b.info

instance : Append CommandLine := ⟨join⟩

/-- Reads the arguments behind the program name. An option without an inline value takes the next
argument along, whatever it is, and all behind a separator is positional. -/
def ofArguments : List RawText → CommandLine
  | [] => {}
  | argument :: rest =>
    match Argument.ofRaw argument with
    | .separator => { positionals := rest }
    | .positional => { positionals := [argument] } ++ ofArguments rest
    | .info request => { flags := [argument], info := some request } ++ ofArguments rest
    | .unknown name => { unknown := [name] } ++ ofArguments rest
    | .value _ true => { flags := [argument] } ++ ofArguments rest
    | .value _ false =>
      match rest with
      | [] => { flags := [argument] }
      | value :: rest => { flags := [argument, value] } ++ ofArguments rest

/-- The first argument is the program name and leads the flags. -/
def split : List RawText → CommandLine
  | [] => {}
  | program :: arguments => { flags := [program] } ++ ofArguments arguments

def number? (line : CommandLine) : Except UsageFault Nat :=
  match line.unknown with
  | name :: _ => .error (.unrecognised name)
  | [] =>
    match line.positionals with
    | [value] =>
      match Text.word? (Utf8.lossy value) with
      | some (n + 1) => .ok (n + 1)
      | _ => .error (.notPositive value.lossy)
    | values => .error (.positionalCount values.length)

/-- The one positional argument, read as a positive number of 64 bits. -/
def pullRequestNumber (line : CommandLine) : Except Failure Nat :=
  line.number?.mapError fun fault => .usage fault.message

theorem pos_of_pullRequestNumber {line : CommandLine} {number : Nat}
    (named : line.pullRequestNumber = .ok number) : 0 < number := by
  unfold pullRequestNumber number? at named
  split at named
  · cases named
  · split at named
    · split at named
      · cases named
        exact Nat.succ_pos _
      · cases named
    · cases named

theorem exists_usage_of_pullRequestNumber {line : CommandLine} {failure : Failure}
    (failed : line.pullRequestNumber = .error failure) :
    ∃ message, failure = .usage message := by
  obtain ⟨fault, -, rfl⟩ := mapError_eq_error_iff.mp failed
  exact ⟨fault.message, rfl⟩

end CommandLine

end DependencyLinks
