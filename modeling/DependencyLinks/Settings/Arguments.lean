import DependencyLinks.Settings.Field
import DependencyLinks.Text.Utf8

/-! Settings given as arguments: options with one value each, none of them twice. -/

namespace DependencyLinks.Settings.Arguments

/-- What an argument says by itself: a field, with its value unless that comes next. -/
inductive Flag where
  | whole (field : Field) (value : RawText)
  | awaiting (field : Field)
deriving DecidableEq, Repr

def equalsSign : UInt8 := 0x3D

def dash : UInt8 := 0x2D

/-- Reads an argument that starts with two dashes, without them. -/
def long? (raw : RawText) : Option Flag := do
  let name ← RawText.text? (raw.takeWhile (· != equalsSign))
  let field ← Field.ofLong? ("--" ++ name)
  match raw.dropWhile (· != equalsSign) with
  | [] => return .awaiting field
  | _ :: value => return .whole field value

/-- Reads an argument that starts with one dash, without it. The value may follow the letter at
once. -/
def short? : RawText → Option Flag
  | [] => none
  | letter :: rest => do
    let field ← Field.ofLetter? (Char.ofNat letter.toNat)
    match rest with
    | [] => return .awaiting field
    | mark :: value => return .whole field (if mark = equalsSign then value else mark :: value)

def flag? : RawText → Option Flag
  | a :: b :: rest =>
    if a = dash ∧ b = dash then long? rest
    else if a = dash then short? (b :: rest)
    else none
  | _ => none

/-- A value of its own does not start with a dash, unless it is nothing else. -/
def standsAlone (raw : RawText) : Bool :=
  raw.head? != some dash || raw == [dash]

/-- The fields that arguments give, each with its value, if all arguments are in order. -/
def pairs? : List RawText → Option (List (Field × String))
  | [] => some []
  | argument :: rest =>
    if argument = [dash, dash] then (if rest.isEmpty then some [] else none)
    else
      match flag? argument with
      | none => none
      | some (.whole field raw) => do
        let value ← RawText.text? raw
        return (field, value) :: (← pairs? rest)
      | some (.awaiting field) =>
        match rest with
        | [] => none
        | raw :: rest => do
          if standsAlone raw then
            let value ← RawText.text? raw
            return (field, value) :: (← pairs? rest)
          else none

/-- Reads the arguments behind the program name. -/
def read? (arguments : List RawText) : Option (List (Field × String)) := do
  let pairs ← pairs? arguments
  if (pairs.map (·.1)).Nodup then some pairs else none

end DependencyLinks.Settings.Arguments
