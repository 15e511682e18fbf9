import DependencyLinks.Writer

/-! What a device has taken after a write, however small its portions and however often it is
interrupted: the beginning of the bytes that fits its room, and nothing twice. -/

namespace DependencyLinks

namespace Device

/-- What is reported of a device without room. -/
def complaint (device : Device) : String :=
  match device.whenFull with
  | .fails message => message
  | .takesNothing => Writer.nothingTaken

/-- The device never runs full, takes some of what it is given at every write, and flushes. -/
structure TakesAll (device : Device) : Prop where
  capacity : device.capacity = none
  portion : device.portion ≠ some 0
  flush : device.flush = .ok ()

end Device

namespace Writer

/-- The beginning of the bytes for which there is room. -/
def fitting (writer : Writer) (bytes : RawText) : RawText :=
  (writer.room.map bytes.take).getD bytes

theorem fitting_eq_self_iff (writer : Writer) (bytes : RawText) :
    writer.fitting bytes = bytes ↔ ∀ n, writer.room = some n → bytes.length ≤ n := by
  cases room : writer.room with
  | none => simp [fitting, room]
  | some n =>
    simp only [fitting, room, Option.map_some, Option.getD_some, Option.some.injEq,
      forall_eq']
    constructor
    · intro whole
      have lengths := congrArg List.length whole
      rw [List.length_take] at lengths
      omega
    · exact List.take_of_length_le

/-- A write of `bytes` that ended with `result` turned `before` into `after`. -/
structure Wrote (before : Writer) (bytes : RawText) (result : Except String Unit)
    (after : Writer) : Prop where
  device : after.device = before.device
  flushes : after.flushes = before.flushes
  room : after.room = before.room.map (· - bytes.length)
  taken : after.taken = before.taken ++ before.fitting bytes
  result : result =
    if before.fitting bytes = bytes then .ok () else .error before.device.complaint

variable {before middle after : Writer} {first second : RawText} {result : Except String Unit}

theorem Wrote.nothing (writer : Writer) : Wrote writer [] (.ok ()) writer where
  device := rfl
  flushes := rfl
  room := by cases writer.room <;> simp
  taken := by cases room : writer.room <;> simp [fitting, room]
  result := by cases room : writer.room <;> simp [fitting, room]

/-- A write goes on behind a write that went well. -/
theorem Wrote.append (one : Wrote before first (.ok ()) middle)
    (two : Wrote middle second result after) : Wrote before (first ++ second) result after := by
  have whole : before.fitting first = first := by
    by_cases whole : before.fitting first = first
    · exact whole
    · have failed := one.result
      simp [whole] at failed
  have fits : before.fitting (first ++ second) = first ++ middle.fitting second := by
    cases room : before.room with
    | none => simp [fitting, one.room, room]
    | some n =>
      have enough : first.length ≤ n := (before.fitting_eq_self_iff first).mp whole n room
      simp [fitting, one.room, room, List.take_append, List.take_of_length_le enough]
  refine ⟨two.device.trans one.device, two.flushes.trans one.flushes, ?_, ?_, ?_⟩
  · rw [two.room, one.room]
    cases before.room <;> simp [Nat.sub_sub]
  · rw [two.taken, one.taken, whole, fits, List.append_assoc]
  · rw [two.result, fits, one.device]
    simp

/-- Bytes behind a write that failed change nothing. -/
theorem Wrote.failed_append {message : String} (one : Wrote before first (.error message) after)
    (second : RawText) : Wrote before (first ++ second) (.error message) after := by
  obtain ⟨n, room, short⟩ : ∃ n, before.room = some n ∧ n < first.length := by
    by_cases whole : before.fitting first = first
    · have done := one.result
      simp [whole] at done
    · simpa [fitting_eq_self_iff] using whole
  have same : before.fitting (first ++ second) = before.fitting first := by
    simp [fitting, room, List.take_append_of_le_length (Nat.le_of_lt short)]
  have partly : ∀ bytes, n < bytes.length → before.fitting bytes ≠ bytes := by
    intro bytes short whole
    have enough := (before.fitting_eq_self_iff bytes).mp whole n room
    omega
  have longer : n < (first ++ second).length := by
    rw [List.length_append]
    omega
  refine ⟨one.device, one.flushes, ?_, one.taken.trans (by rw [same]), ?_⟩
  · rw [one.room, room]
    simp only [Option.map_some, List.length_append, Option.some.injEq]
    omega
  · have failed := one.result
    simp only [partly first short, ↓reduceIte] at failed
    simpa [partly _ longer] using failed

theorem portion_prefix (writer : Writer) (bytes : RawText) : writer.portion bytes <+: bytes := by
  have most : (writer.device.portion.map bytes.take).getD bytes <+: bytes := by
    cases writer.device.portion with
    | none => exact List.prefix_refl bytes
    | some n => exact List.take_prefix n bytes
  cases room : writer.room with
  | none => simpa [portion, room] using most
  | some n =>
    simp only [portion, room, Option.map_some, Option.getD_some]
    exact (List.take_prefix n _).trans most

/-- A portion of at least one byte is taken unless there is no room at all. -/
theorem room_of_portion_eq_nil {writer : Writer} {bytes : RawText}
    (moves : writer.device.portion ≠ some 0) (some : bytes ≠ [])
    (none : writer.portion bytes = []) : writer.room = Option.some 0 := by
  have most : (writer.device.portion.map bytes.take).getD bytes ≠ [] := by
    cases size : writer.device.portion with
    | none => exact some
    | some n =>
      have positive : n ≠ 0 := fun zero => moves (zero ▸ size)
      simp [List.take_eq_nil_iff, positive, some]
  cases room : writer.room with
  | none =>
    simp only [portion, room, Option.map_none, Option.getD_none] at none
    exact absurd none most
  | some n =>
    simp only [portion, room, Option.map_some, Option.getD_some, List.take_eq_nil_iff] at none
    rcases none with zero | empty
    · rw [zero]
    · exact absurd empty most

theorem wrote_accept (writer : Writer) (bytes : RawText) :
    Wrote writer (writer.portion bytes) (.ok ()) (writer.accept (writer.portion bytes)) := by
  have whole : writer.fitting (writer.portion bytes) = writer.portion bytes := by
    apply (writer.fitting_eq_self_iff _).mpr
    intro n room
    simp only [portion, room, Option.map_some, Option.getD_some, List.length_take]
    omega
  exact {
    device := rfl
    flushes := rfl
    room := rfl
    taken := by rw [whole]; simp [accept, taken]
    result := by simp [whole] }

theorem wrote_writeAll (writer : Writer) (bytes : RawText)
    (moves : writer.device.portion ≠ some 0) :
    Wrote writer bytes (writer.writeAll bytes).1 (writer.writeAll bytes).2 := by
  fun_induction writeAll writer bytes with
  | case1 writer => exact .nothing writer
  | case2 writer bytes _ _ ih =>
    have later := ih moves
    exact ⟨later.device, later.flushes, later.room, later.taken, later.result⟩
  | case3 writer bytes some _ none =>
    have full := room_of_portion_eq_nil moves some none
    refine ⟨rfl, rfl, by simp [full], by simp [fitting, full], ?_⟩
    have partly : ([] : RawText) ≠ bytes := fun empty => some empty.symm
    cases kind : writer.device.whenFull <;>
      simp [fitting, full, partly, refusal, Device.complaint, kind]
  | case4 writer bytes _ _ _ ih =>
    have split := List.prefix_iff_eq_append.mp (writer.portion_prefix bytes)
    have later := (writer.wrote_accept bytes).append (ih moves)
    rwa [split] at later

theorem ofString_linesText_cons (line : String) (lines : List String) :
    RawText.ofString (linesText (line :: lines)) =
      RawText.ofString line ++ (RawText.ofString "\n" ++ RawText.ofString (linesText lines)) := by
  simp [RawText.ofString, linesText, Utf8.encode]

theorem wrote_writeLines (writer : Writer) (lines : List String)
    (moves : writer.device.portion ≠ some 0) :
    Wrote writer (RawText.ofString (linesText lines)) (writer.writeLines lines).1
      (writer.writeLines lines).2 := by
  induction lines generalizing writer with
  | nil => exact .nothing writer
  | cons line lines ih =>
    have one := writer.wrote_writeAll (RawText.ofString line) moves
    rw [ofString_linesText_cons, writeLines]
    rcases ended : writer.writeAll (RawText.ofString line) with ⟨_ | _, middle⟩ <;>
      rw [ended] at one
    · exact one.failed_append _
    · have moves : middle.device.portion ≠ some 0 := one.device ▸ moves
      have feed := middle.wrote_writeAll (RawText.ofString "\n") moves
      apply one.append
      simp only
      rcases broken : middle.writeAll (RawText.ofString "\n") with ⟨_ | _, after⟩ <;>
        rw [broken] at feed
      · exact feed.failed_append _
      · exact feed.append (ih after (feed.device ▸ moves))

/-- The device takes the beginning of the lines for which there is room. If that is all of them, it
is flushed, and else it is not. -/
theorem print_eq {device : Device} (moves : device.portion ≠ some 0) (lines : List String) :
    let output := RawText.ofString (linesText lines)
    let kept := Writer.fitting { device } output
    let printed := Writer.print { device } lines
    printed.2.taken = kept ∧ printed.2.flushes = (if kept = output then 1 else 0) ∧
      printed.1 =
        if kept = output then device.flush.mapError Failure.output
        else .error (.output device.complaint) := by
  have wrote := wrote_writeLines { device } lines moves
  have result := wrote.result
  rcases ended : Writer.writeLines { device } lines with ⟨written, writer⟩
  rw [ended] at wrote result
  simp only [print, ended]
  split at result
  next whole =>
    cases result
    simp only [if_pos whole]
    exact ⟨wrote.taken, congrArg (· + 1) wrote.flushes,
      congrArg (·.flush.mapError Failure.output) wrote.device⟩
  next short =>
    cases result
    simp only [if_neg short]
    exact ⟨wrote.taken, wrote.flushes, trivial⟩

/-- Printing to a device that takes everything gives it the lines, each with a line feed behind it,
and flushes once. -/
theorem print_of_takesAll {device : Device} (takesAll : device.TakesAll) (lines : List String) :
    let printed := Writer.print { device } lines
    printed.1 = .ok () ∧ printed.2.taken = RawText.ofString (linesText lines) ∧
      printed.2.flushes = 1 := by
  obtain ⟨taken, flushes, result⟩ := print_eq takesAll.portion lines
  have whole : Writer.fitting { device } (RawText.ofString (linesText lines)) =
      RawText.ofString (linesText lines) := by
    simp [fitting, takesAll.capacity]
  rw [if_pos whole] at flushes result
  rw [takesAll.flush] at result
  exact ⟨result, taken.trans whole, flushes⟩

end Writer

end DependencyLinks
