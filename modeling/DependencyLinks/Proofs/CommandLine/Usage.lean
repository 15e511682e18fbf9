import DependencyLinks.Program
import DependencyLinks.Proofs.Text.Decimal
import DependencyLinks.Proofs.Text.Quoted

/-! What a command line that names no pull request is told. The message keeps to one line, whatever
the arguments hold, and no two faults share theirs. -/

namespace DependencyLinks

namespace UsageFault

/-- What faults about options and about the count of arguments end with. -/
def hint : String :=
  " (" ++ InfoRequest.usageLine ++ ")"

theorem message_unrecognised (name : String) :
    (unrecognised name).message = "unrecognised option " ++ (Text.quoted name ++ hint) := by
  simp only [hint, ← String.append_assoc]
  rfl

theorem message_positionalCount (count : Nat) :
    (positionalCount count).message =
      "expected exactly one pull request number, got " ++ (toString count ++ hint) := by
  simp only [hint, ← String.append_assoc]
  rfl

theorem message_notPositive (text : String) :
    (notPositive text).message =
      "pull request number must be a positive integer, got " ++ Text.quoted text := rfl

theorem oneLine_hint : Text.OneLine hint := by
  decide +kernel

theorem oneLine_message (fault : UsageFault) : Text.OneLine fault.message := by
  cases fault with
  | unrecognised name =>
    rw [message_unrecognised, Text.oneLine_append, Text.oneLine_append]
    exact ⟨by decide +kernel, Text.oneLine_quoted name, oneLine_hint⟩
  | positionalCount count =>
    rw [message_positionalCount, Text.oneLine_append, Text.oneLine_append]
    exact ⟨by decide +kernel, Text.oneLine_toString count, oneLine_hint⟩
  | notPositive text =>
    rw [message_notPositive, Text.oneLine_append]
    exact ⟨by decide +kernel, Text.oneLine_quoted text⟩

/-- The first letter tells which fault a message is about. -/
def initial : UsageFault → Char
  | unrecognised _ => 'u'
  | positionalCount _ => 'e'
  | notPositive _ => 'p'

theorem head?_message (fault : UsageFault) : fault.message.toList.head? = some fault.initial := by
  cases fault with
  | unrecognised name => rw [message_unrecognised, String.toList_append]; rfl
  | positionalCount count => rw [message_positionalCount, String.toList_append]; rfl
  | notPositive text => rw [message_notPositive, String.toList_append]; rfl

theorem message_injective : Function.Injective message := by
  intro fault other same
  have first : fault.initial = other.initial := by
    rw [← Option.some.injEq, ← head?_message, same, head?_message]
  cases fault with
  | unrecognised name =>
    cases other with
    | unrecognised name' =>
      rw [message_unrecognised, message_unrecognised, String.append_right_inj,
        Text.quoted_append_inj] at same
      rw [same.1]
    | positionalCount _ | notPositive _ => simp [initial] at first
  | positionalCount count =>
    cases other with
    | positionalCount count' =>
      rw [message_positionalCount, message_positionalCount, String.append_right_inj,
        String.append_left_inj, ← String.toList_inj, Nat.toString_eq_repr, Nat.toString_eq_repr,
        Nat.toList_repr, Nat.toList_repr, Text.toDigits_inj] at same
      rw [same]
    | unrecognised _ | notPositive _ => simp [initial] at first
  | notPositive text =>
    cases other with
    | notPositive text' =>
      rw [message_notPositive, message_notPositive, String.append_right_inj,
        Text.quoted_inj] at same
      rw [same]
    | unrecognised _ | positionalCount _ => simp [initial] at first

end UsageFault

namespace CommandLine

variable {line : CommandLine}

theorem number?_of_unknown {name : String} {names : List String}
    (unknown : line.unknown = name :: names) : line.number? = .error (.unrecognised name) := by
  simp only [number?, unknown]

theorem eq_notPositive_of_number? {raw : RawText} {fault : UsageFault} (known : line.unknown = [])
    (single : line.positionals = [raw]) (failed : line.number? = .error fault) :
    fault = .notPositive raw.lossy := by
  simp only [number?, known, single] at failed
  split at failed
  · cases failed
  · exact (Except.error.inj failed).symm

/-- What is complained about a fault is one line. -/
theorem lines_errorOutput (fault : UsageFault) :
    Text.cutAt (· == '\n') (Run.failed (.usage fault.message)).errorOutput.toList =
      [("usage: " ++ fault.message).toList, []] := by
  have line : Text.OneLine ("usage: " ++ fault.message) :=
    Text.oneLine_append.mpr ⟨by decide +kernel, fault.oneLine_message⟩
  have plain : ∀ c ∈ ("usage: " ++ fault.message).toList, (c == '\n') = false := by
    intro c member
    rw [beq_eq_false_iff_ne]
    rintro rfl
    exact absurd (line _ member) (by decide)
  have nothing : Text.cutAt (· == '\n') [] = [[]] := Text.cutAt_of_absent nofun
  have cut := Text.cutAt_append plain (beq_self_eq_true '\n') []
  rw [nothing] at cut
  rw [← cut]
  simp [Run.failed, Run.errorOutput, Failure.text, Failure.heading, Failure.detail]

/-- Whatever the arguments hold, the complaint about them is one line without controls and without
white space but spaces. It tells the fault: the name of the first option that is not known, the
count of positional arguments or the text that is no number. -/
theorem usage_told_in_one_line :
    (∀ arguments failure, (split arguments).pullRequestNumber = .error failure →
      ∃ message, failure = .usage message ∧
        (∀ c ∈ message.toList, Text.inRanges Text.controlRanges c = false ∧
          (Text.blank c = true → c = ' ')) ∧
        Text.cutAt (· == '\n') (Run.failed failure).errorOutput.toList =
          [("usage: " ++ message).toList, []]) ∧
    ∀ first second message,
      (split first).pullRequestNumber = .error (.usage message) →
      (split second).pullRequestNumber = .error (.usage message) →
      (split first).number? = (split second).number? ∧
      (∀ name names name' names', (split first).unknown = name :: names →
        (split second).unknown = name' :: names' → name = name') ∧
      ∀ raw raw', (split first).unknown = [] → (split first).positionals = [raw] →
        (split second).unknown = [] → (split second).positionals = [raw'] →
        raw.lossy = raw'.lossy := by
  constructor
  · intro arguments failure failed
    obtain ⟨fault, -, rfl⟩ := mapError_eq_error_iff.mp failed
    refine ⟨fault.message, rfl, ?_, lines_errorOutput fault⟩
    intro c member
    have legible := fault.oneLine_message c member
    exact ⟨legible.uncontrolled, legible.filled⟩
  · intro first second message failed failed'
    obtain ⟨fault, cause, told⟩ := mapError_eq_error_iff.mp failed
    obtain ⟨fault', cause', told'⟩ := mapError_eq_error_iff.mp failed'
    have same : fault = fault' := by
      apply UsageFault.message_injective
      rw [Failure.usage.inj told, Failure.usage.inj told']
    subst fault'
    refine ⟨cause.trans cause'.symm, ?_, ?_⟩
    · intro name names name' names' unknown unknown'
      rw [number?_of_unknown unknown] at cause
      rw [number?_of_unknown unknown', ← cause] at cause'
      exact (UsageFault.unrecognised.inj (Except.error.inj cause')).symm
    · intro raw raw' known single known' single'
      have text := eq_notPositive_of_number? known single cause
      rw [eq_notPositive_of_number? known' single' cause'] at text
      exact (UsageFault.notPositive.inj text).symm

private def garbled : List RawText := [RawText.ofString "links", [0x31, 0x0A, 0xFF]]

private def replaced : List RawText := ["links", "1\n\uFFFD"].map RawText.ofString

/-- A byte that is no text and the character put in its place are told alike, in one line although
both arguments hold a line break. -/
theorem usage_told_in_one_line_garbled :
    let message := (UsageFault.notPositive "1\n\uFFFD").message
    (split garbled).pullRequestNumber = .error (.usage message) ∧
      (split replaced).pullRequestNumber = .error (.usage message) ∧
      Text.cutAt (· == '\n') (Run.failed (.usage message)).errorOutput.toList =
        [("usage: " ++ message).toList, []] ∧
      (split garbled).number? = (split replaced).number? ∧
      RawText.lossy [0x31, 0x0A, 0xFF] = RawText.lossy (RawText.ofString "1\n\uFFFD") := by
  intro message
  have first : (split garbled).pullRequestNumber = .error (.usage message) := by decide +kernel
  have second : (split replaced).pullRequestNumber = .error (.usage message) := by decide +kernel
  obtain ⟨shown, apart⟩ := usage_told_in_one_line
  obtain ⟨_, ⟨⟩, -, line⟩ := shown garbled _ first
  obtain ⟨same, -, texts⟩ := apart garbled replaced message first second
  exact ⟨first, second, line, same, texts _ _ (by decide +kernel) (by decide +kernel)
    (by decide +kernel) (by decide +kernel)⟩

end CommandLine

end DependencyLinks
