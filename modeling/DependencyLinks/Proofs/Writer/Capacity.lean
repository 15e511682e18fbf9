import DependencyLinks.Proofs.Writer.Taken

/-! Printing to a device that may run full. It ends up with the beginning of the output that its
capacity allows, wherever that cuts a line or a character, and nothing else about the device plays a
part: neither the size of its portions nor its interruptions. -/

namespace DependencyLinks

/-- The bytes of lines, each with a line feed behind it. -/
def outputBytes (lines : List String) : RawText :=
  lines.flatMap fun line => RawText.ofString line ++ [0x0A]

theorem ofString_linesText (lines : List String) :
    RawText.ofString (linesText lines) = outputBytes lines := by
  induction lines with
  | nil => rfl
  | cons line lines ih =>
    have feed : RawText.ofString "\n" = [0x0A] := by decide
    rw [Writer.ofString_linesText_cons, ih, feed, ← List.append_assoc]
    rfl

namespace Device

/-- How many of `total` bytes a device takes. -/
def most (device : Device) (total : Nat) : Nat :=
  (device.capacity.map fun limit => min limit total).getD total

theorem take_most (device : Device) (bytes : RawText) :
    bytes.take (device.most bytes.length) = Writer.fitting { device } bytes := by
  unfold most Writer.fitting
  cases device.capacity with
  | none => exact List.take_length
  | some limit => exact List.take_eq_take_min.symm

/-- What becomes of lines that are printed to a device. -/
structure Prints (device : Device) (lines : List String) (result : Except Failure Unit)
    (writer : Writer) : Prop where
  taken : writer.taken = (outputBytes lines).take (device.most (outputBytes lines).length)
  flushes : writer.flushes = if writer.taken = outputBytes lines then 1 else 0
  done : result = .ok () ↔ writer.taken = outputBytes lines ∧ device.flush = .ok ()
  full : writer.taken ≠ outputBytes lines → result = .error (.output device.complaint)
  unflushed : ∀ message, writer.taken = outputBytes lines → device.flush = .error message →
    result = .error (.output message)

/-- Printing comes to an end on every device that takes some bytes of what it is given. The device
has the beginning of the output then, as far as its capacity goes, and is flushed if that is all of
it. The result is a failure if there is more or if the flush fails. -/
theorem prints_of_portion {device : Device} (moves : device.portion ≠ some 0)
    (lines : List String) :
    let printed := Writer.print { device } lines
    device.Prints lines printed.1 printed.2 ∧
      ∀ (portion : Option Nat) (interruptions : Nat → Nat), portion ≠ some 0 →
        let other := Writer.print { device := { device with portion, interruptions } } lines
        other.1 = printed.1 ∧ other.2.taken = printed.2.taken ∧
          other.2.flushes = printed.2.flushes := by
  intro printed
  obtain ⟨taken, flushes, result⟩ := Writer.print_eq moves lines
  constructor
  · rw [ofString_linesText, ← take_most] at taken flushes result
    rw [← taken] at flushes result
    refine ⟨taken, flushes, ?done, ?full, ?unflushed⟩
    case done =>
      by_cases whole : printed.2.taken = outputBytes lines
      · rw [result, if_pos whole, and_iff_right whole]
        cases device.flush <;> simp
      · rw [result, if_neg whole]
        exact iff_of_false nofun fun both => whole both.1
    case full =>
      intro short
      rw [result, if_neg short]
    case unflushed =>
      intro message whole failed
      rw [result, if_pos whole, failed]
      rfl
  · intro portion interruptions positive other
    -- What comes of printing is told without the portions and interruptions.
    have moves' : { device with portion, interruptions }.portion ≠ some 0 := positive
    obtain ⟨taken', flushes', result'⟩ := Writer.print_eq moves' lines
    exact ⟨result'.trans result.symm, taken'.trans taken.symm, flushes'.trans flushes.symm⟩

/-- A device that has room for four bytes of six, takes two at a time and is interrupted before
every other write. The output breaks off inside a character. -/
private def narrow : Device :=
  { capacity := some 4, portion := some 2, whenFull := .takesNothing, interruptions := (· % 2) }

theorem prints_of_portion_narrow :
    narrow.portion ≠ some 0 ∧
      let printed := Writer.print { device := narrow } ["ab", "é"]
      printed.2.taken = [0x61, 0x62, 0x0A, 0xC3] ∧ printed.2.flushes = 0 ∧
        printed.1 = .error (.output "failed to write whole buffer") := by
  have moves : narrow.portion ≠ some 0 := by decide
  obtain ⟨prints, -⟩ := prints_of_portion moves ["ab", "é"]
  have taken : (Writer.print { device := narrow } ["ab", "é"]).2.taken =
      [0x61, 0x62, 0x0A, 0xC3] := prints.taken.trans (by decide)
  have short : (Writer.print { device := narrow } ["ab", "é"]).2.taken ≠
      outputBytes ["ab", "é"] := by
    rw [taken]
    decide
  exact ⟨moves, taken, prints.flushes.trans (if_neg short), prints.full short⟩

end Device

end DependencyLinks
