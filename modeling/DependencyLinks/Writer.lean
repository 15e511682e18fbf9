import DependencyLinks.Failure
import DependencyLinks.Text.Utf8

/-!
Writing to a device that may take bytes in small portions, be interrupted, or run full. A write is
repeated after an interruption and goes on behind the bytes that were taken.
-/

namespace DependencyLinks

/-- What a full device does with more bytes. -/
inductive WhenFull where
  | fails (message : String)
  | takesNothing
deriving DecidableEq, Repr

structure Device where
  capacity : Option Nat := none
  portion : Option Nat := none
  whenFull : WhenFull := .fails "disk full"
  interruptions : Nat → Nat := fun _ => 0
  flush : Except String Unit := .ok ()

/-- A device in use: the room that is left, what it has taken write by write, the latest first, how
many writes those were, and the interruptions before the next. -/
structure Writer where
  device : Device
  room : Option Nat := device.capacity
  portions : List RawText := []
  writes : Nat := 0
  pending : Nat := device.interruptions 0
  flushes : Nat := 0

namespace Writer

/-- All bytes that the device has taken, in order. -/
def taken (writer : Writer) : RawText :=
  writer.portions.reverse.flatten

/-- The bytes that the device takes at once. -/
def portion (writer : Writer) (bytes : RawText) : RawText :=
  let most := (writer.device.portion.map bytes.take).getD bytes
  (writer.room.map most.take).getD most

def accept (writer : Writer) (bytes : RawText) : Writer :=
  { writer with
    room := writer.room.map (· - bytes.length)
    portions := bytes :: writer.portions
    writes := writer.writes + 1
    pending := writer.device.interruptions (writer.writes + 1) }

/-- What is reported when a device takes nothing. -/
def nothingTaken : String := "failed to write whole buffer"

def refusal (writer : Writer) : String :=
  match writer.room, writer.device.whenFull with
  | some 0, .fails message => message
  | _, _ => nothingTaken

/-- Writes bytes until all are taken or none is. -/
def writeAll (writer : Writer) (bytes : RawText) : Except String Unit × Writer :=
  if _ : bytes = [] then (.ok (), writer)
  else if _ : 0 < writer.pending then
    writeAll { writer with pending := writer.pending - 1 } bytes
  else if _ : writer.portion bytes = [] then (.error writer.refusal, writer)
  else
    writeAll (writer.accept (writer.portion bytes)) (bytes.drop (writer.portion bytes).length)
termination_by (bytes.length, writer.pending)
decreasing_by
  · exact Prod.Lex.right _ (Nat.sub_lt ‹_› Nat.one_pos)
  · have some := List.length_pos_iff.mpr ‹bytes ≠ []›
    have more := List.length_pos_iff.mpr ‹writer.portion bytes ≠ []›
    exact Prod.Lex.left _ _ (by rw [List.length_drop]; omega)

/-- Writes each line and a line feed behind it. -/
def writeLines (writer : Writer) : List String → Except String Unit × Writer
  | [] => (.ok (), writer)
  | line :: lines =>
    match writer.writeAll (RawText.ofString line) with
    | (.error message, writer) => (.error message, writer)
    | (.ok (), writer) =>
      match writer.writeAll (RawText.ofString "\n") with
      | (.error message, writer) => (.error message, writer)
      | (.ok (), writer) => writer.writeLines lines

/-- Writes all lines, and flushes if that went well. -/
def print (writer : Writer) (lines : List String) : Except Failure Unit × Writer :=
  match writer.writeLines lines with
  | (.error message, writer) => (.error (.output message), writer)
  | (.ok (), writer) =>
    (writer.device.flush.mapError Failure.output, { writer with flushes := writer.flushes + 1 })

end Writer

/-- Lines as they are written when nothing goes wrong. -/
def linesText (lines : List String) : String :=
  String.join (lines.map (· ++ "\n"))

end DependencyLinks
