import DependencyLinks.Settings.Arguments
import DependencyLinks.Settings.Environment
import DependencyLinks.Settings.File

/-! Settings from all sources: arguments over variables over a file. -/

namespace DependencyLinks.Settings

/-- Why settings cannot be loaded. -/
inductive LoadFault where
  | arguments
  | file
  | value
deriving DecidableEq, Repr

def LoadFault.failure : LoadFault → Failure
  | arguments => .configuration "invalid arguments"
  | file => .configuration "unreadable configuration file"
  | value => .configuration "a setting is no text"

def argumentLayer (pairs : List (Field × String)) : Json :=
  .object (pairs.map fun (field, value) => (field.key, .string value))

/-- Loads the settings that forwarded flags, led by the program name, and the surroundings give. -/
def loadFrom (flags : List RawText) (surroundings : Surroundings) : Except LoadFault Settings :=
  match Arguments.read? flags.tail with
  | none => .error .arguments
  | some pairs =>
    match File.layer? surroundings with
    | none => .error .file
    | some file =>
      let layers := file.toList ++ [Environment.layer surroundings.environment, argumentLayer pairs]
      match ofMembers? (stack layers) with
      | some settings => .ok settings
      | none => .error .value

def load (flags : List RawText) (surroundings : Surroundings) : Except Failure Settings :=
  (loadFrom flags surroundings).mapError LoadFault.failure

end DependencyLinks.Settings
