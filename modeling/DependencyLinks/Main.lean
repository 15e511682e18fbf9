import DependencyLinks.Program
import DependencyLinks.Remote.Message
import Std.Async.DNS
import Std.Async.TCP

/-!
The command line program. What it prints is decided by `runProgram`; here its surroundings are
looked up, the requests that it makes are sent, and the outcome is printed. Requests travel over
plain connections only: with any other scheme a connection counts as lost.
-/

namespace DependencyLinks.Main

open Std.Async

/-- The names of the variables that are looked up where the system lists none. -/
def knownNames : List String :=
  ["HOME", "XDG_CONFIG_HOME", "XDG_CONFIG_DIRS", Settings.File.pathVariable] ++
    Settings.tokenVariables ++
    Field.all.map fun field =>
      (String.ofList Settings.Environment.nameStart ++ field.key).map Char.toUpper

def environment : IO Variables := do
  try
    return Variables.ofBlock (← IO.FS.readBinFile "/proc/self/environ").toList
  catch _ =>
    knownNames.filterMapM fun name => do
      return (← IO.getEnv name).map fun value => (name, RawText.ofString value)

/-- Reads the files at the places where settings may be. -/
def withFiles (surroundings : Settings.Surroundings) : IO Settings.Surroundings := do
  let files ← (Settings.File.places surroundings).filterMapM fun place => do
    let path := Settings.File.resolve surroundings.workingDirectory place
    try
      return some (path, (← IO.FS.readBinFile path).toList)
    catch _ => return none
  return { surroundings with file? := fun path => files.lookup path }

def surroundings : IO Settings.Surroundings := do
  withFiles (.ofVariables (← environment) (toString (← IO.currentDir)))

/-- Gathers what comes in until the connection ends. -/
partial def receive (socket : TCP.Socket.Client) (received : ByteArray) : Async ByteArray := do
  match ← socket.recv? 65536 with
  | some portion => receive socket (received ++ portion)
  | none => return received

def exchange (request : Remote.Request) (address : Std.Net.IPAddr) (port : UInt16) :
    Async RawText := do
  let socket ← TCP.Socket.Client.mk
  socket.connect (match address with
    | .v4 addr => .v4 { addr, port }
    | .v6 addr => .v6 { addr, port })
  socket.send ⟨request.bytes.toArray⟩
  return (← receive socket .empty).toList

/-- Sends a request to the first address of its host. -/
def fetch (request : Remote.Request) : IO Remote.Reply := do
  match request.scheme, request.destination? with
  | "http", some (name, port) =>
    try
      let addresses ← (DNS.getAddrInfo name (toString port)).block
      match addresses[0]? with
      | some address =>
        return .ofBytes (← (exchange request address (UInt16.ofNat port)).block)
      | none => return .lost
    catch _ => return .lost
  | _, _ => return .lost

/-- Runs the program on the replies that are known, and fetches one more as long as it has made a
request without a reply. -/
partial def converse (arguments : List RawText) (surroundings : Settings.Surroundings)
    (replies : List Remote.Reply) : IO Run := do
  let run := runProgram arguments surroundings (.replaying replies)
  match run.requests[replies.length]? with
  | some request => converse arguments surroundings (replies ++ [← fetch request])
  | none => return run

/-- Prints the output, after warnings, and tells whether it could be written. -/
def print (run : Run) : IO (Except Failure Unit) := do
  for event in run.events do
    if event.level = .warning then IO.eprintln ("WARN " ++ event.message)
  try
    IO.print run.output
    (← IO.getStdout).flush
    return .ok ()
  catch fault => return .error (.output (toString fault))

/-- Runs the program on its arguments, of which the program name is none, and gives its status. -/
def run (arguments : List String) : IO UInt32 := do
  let arguments := ("downstream-prs" :: arguments).map RawText.ofString
  let done ← converse arguments (← surroundings) []
  let done := match ← print done with
    | .ok () => done
    | .error failure => Run.failed failure
  IO.eprint done.errorOutput
  return UInt32.ofNat done.status

end DependencyLinks.Main

def main (arguments : List String) : IO UInt32 :=
  DependencyLinks.Main.run arguments
