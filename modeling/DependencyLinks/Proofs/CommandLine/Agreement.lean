import DependencyLinks.Proofs.CommandLine.Name

/-! The settings read the same options from a command line that splitting it forwards. -/

namespace DependencyLinks.CommandLine

open Settings

theorem chained_options (arguments : List RawText) :
    Arguments.Chained (options arguments) := by
  refine options_induction arguments .nothing ?inline ?unfinished ?separate
  case inline => exact fun field argument given read => .inline (Argument.flag?_of_ofRaw read)
  case unfinished => exact fun field argument read => .unfinished (Argument.flag?_of_ofRaw read)
  case separate =>
    exact fun field argument value given read => .separate (Argument.flag?_of_ofRaw read)

/-- The settings cut forwarded options as they were cut before. -/
theorem options?_flatMap_raws (arguments : List RawText) :
    Arguments.options? ((options arguments).flatMap Given.raws) = some (options arguments) :=
  (chained_options arguments).options?_eq

theorem getLast?_of_unfinished (arguments : List RawText) :
    ∀ given ∈ options arguments, given.value? = none →
      (options arguments).getLast? = some given := by
  have step : ∀ (other : Given) (rest : List Given), other.value? ≠ none →
      (∀ given ∈ rest, given.value? = none → rest.getLast? = some given) →
      ∀ given ∈ other :: rest, given.value? = none → (other :: rest).getLast? = some given := by
    intro other rest paired last given member lacking
    rcases List.mem_cons.mp member with rfl | member
    · contradiction
    · rw [List.getLast?_cons, last given member lacking]
      rfl
  refine options_induction (motive := fun options => ∀ given ∈ options, given.value? = none →
    options.getLast? = some given) arguments ?nothing ?inline ?unfinished ?separate
  case nothing =>
    intro given member
    cases member
  case inline => exact fun field argument given read => step _ given nofun
  case unfinished =>
    intro field argument read given member lacking
    rw [List.mem_singleton.mp member]
    rfl
  case separate => exact fun field argument value given read => step _ given nofun

/-- An option that is forwarded stood where an option may stand, under a name of its field. -/
theorem ofRaw_of_mem_options (arguments : List RawText) :
    ∀ given ∈ options arguments,
      ∃ inline, Argument.ofRaw given.argument = .value given.field inline := by
  refine options_induction (motive := fun options => ∀ given ∈ options,
    ∃ inline, Argument.ofRaw given.argument = .value given.field inline) arguments
    ?nothing ?inline ?unfinished ?separate
  case nothing =>
    intro given member
    cases member
  case inline =>
    intro field argument given read ih
    exact List.forall_mem_cons.mpr ⟨⟨true, read⟩, ih⟩
  case unfinished =>
    intro field argument read
    exact List.forall_mem_singleton.mpr ⟨false, read⟩
  case separate =>
    intro field argument value given read ih
    exact List.forall_mem_cons.mpr ⟨⟨false, read⟩, ih⟩

/-- Why the settings turn down options. -/
inductive Refused (options : List Given) : Prop where
  | repeated (twice : ¬ (options.map Given.field).Nodup)
  | unfinished (given : Given) (last : options.getLast? = some given)
    (lacking : given.value? = none)
  | dashed (field : Field) (argument value : RawText)
    (member : .separate field argument value ∈ options)
    (leading : value.head? = some Arguments.dash) (more : value ≠ [Arguments.dash])
  | garbled (given : Given) (value : RawText) (member : given ∈ options)
    (paired : given.value? = some value) (unread : ∀ text, value ≠ RawText.ofString text)

theorem refused_of_pair?_eq_none {arguments : List RawText} {given : Given}
    (member : given ∈ options arguments) (unread : given.pair? = none) :
    Refused (options arguments) := by
  rcases Given.pair?_eq_none_iff.mp unread with lacking | dashed | ⟨value, paired, unread⟩
  · exact .unfinished given (getLast?_of_unfinished arguments given member lacking) lacking
  · cases given with
    | separate field argument value =>
      have leading : value.head? = some Arguments.dash ∧ value ≠ [Arguments.dash] := by
        simpa [Given.dashed, Arguments.standsAlone] using dashed
      exact .dashed field argument value member leading.1 leading.2
    | inline field argument value => cases dashed
    | unfinished field argument => cases dashed
  · exact .garbled given value member paired unread

theorem read?_eq_none_iff_refused (arguments : List RawText) :
    Arguments.read? ((options arguments).flatMap Given.raws) = none ↔
      Refused (options arguments) := by
  rw [Arguments.read?_eq_none_iff (options?_flatMap_raws arguments)]
  constructor
  · rintro (twice | ⟨given, member, unread⟩)
    · exact .repeated twice
    · exact refused_of_pair?_eq_none member unread
  · rintro (twice | ⟨given, last, lacking⟩ | ⟨field, argument, value, member, leading, more⟩ |
      ⟨given, value, member, paired, unread⟩)
    · exact .inl twice
    · exact .inr ⟨given, List.mem_of_getLast? last, Given.pair?_eq_none_iff.mpr (.inl lacking)⟩
    · have dashed : (Given.separate field argument value).dashed = true := by
        simp [Given.dashed, Arguments.standsAlone, leading, more]
      exact .inr ⟨_, member, Given.pair?_eq_none_iff.mpr (.inr (.inl dashed))⟩
    · exact .inr ⟨given, member,
        Given.pair?_eq_none_iff.mpr (.inr (.inr ⟨value, paired, unread⟩))⟩

theorem loadFrom_eq_arguments_iff {flags : List RawText} {surroundings : Surroundings} :
    loadFrom flags surroundings = .error .arguments ↔ Arguments.read? flags.tail = none := by
  unfold loadFrom
  cases Arguments.read? flags.tail with
  | none => simp
  | some pairs =>
    simp only [reduceCtorEq, iff_false]
    split
    · nofun
    · split <;> nofun

/-- The settings read a command line as it is split: the number stands apart, the forwarded flags
are cut into the same options again, and the options are refused or set what they say. -/
structure Agreement (arguments : List RawText) (number : Nat) : Prop where
  apart : ∃ before raw after, pieces arguments.tail = before ++ .positional raw :: after ∧
    arguments.tail = before.flatMap Piece.raws ++ raw :: after.flatMap Piece.raws ∧
    Text.word? (Utf8.lossy raw) = some number ∧
    (before ++ after).filterMap Piece.given? = options arguments.tail ∧
    ∀ piece ∈ before ++ after, piece.given? = none → ∃ argument, piece = .separator argument
  forwarded : (split arguments).flags.tail = (options arguments.tail).flatMap Given.raws
  alike : Arguments.options? (split arguments).flags.tail = some (options arguments.tail)
  met : ∀ given ∈ options arguments.tail,
    ∃ inline, Argument.ofRaw given.argument = .value given.field inline
  refused : ∀ surroundings, loadFrom (split arguments).flags surroundings = .error .arguments ↔
    Refused (options arguments.tail)
  taken : ¬ Refused (options arguments.tail) → ∃ pairs own,
    Arguments.read? (split arguments).flags.tail = some pairs ∧
    ofMembers? (argumentLayer pairs).members = some own ∧
    (∀ given ∈ options arguments.tail, ∃ text, given.value? = some (RawText.ofString text) ∧
      own.get given.field = some text) ∧
    ∀ field, field ∉ (options arguments.tail).map Given.field → own.get field = none

/-- A command line that starts a scan is read by the settings as it is split. -/
theorem agreement_of_number {arguments : List RawText} {number : Nat}
    (scan : (split arguments).info = none)
    (named : (split arguments).pullRequestNumber = .ok number) : Agreement arguments number := by
  rw [info_split] at scan
  rw [pullRequestNumber_split] at named
  have forwarded : (split arguments).flags.tail = (options arguments.tail).flatMap Given.raws :=
    (tail_flags_split arguments).trans (flags_of_no_info scan)
  have alike := options?_flatMap_raws arguments.tail
  refine ⟨?apart, forwarded, forwarded ▸ alike, ofRaw_of_mem_options _, ?refused, ?taken⟩
  case apart =>
    obtain ⟨before, raw, after, cut, read, others⟩ := exists_number scan named
    have whole := flatMap_raws_pieces arguments.tail
    rw [cut, List.flatMap_append, List.flatMap_cons] at whole
    have left : (before ++ after).filterMap Piece.given? = options arguments.tail := by
      rw [options, cut, List.filterMap_append, List.filterMap_append,
        List.filterMap_cons_none rfl]
    exact ⟨before, raw, after, cut, whole.symm, read, left, others⟩
  case refused =>
    intro surroundings
    rw [loadFrom_eq_arguments_iff, forwarded, read?_eq_none_iff_refused]
  case taken =>
    intro accepted
    rw [← read?_eq_none_iff_refused] at accepted
    obtain ⟨pairs, read⟩ := Option.ne_none_iff_exists'.mp accepted
    obtain ⟨set, unset⟩ := Arguments.lookup_of_read? alike read
    refine ⟨pairs, _, forwarded ▸ read, ofMembers?_argumentLayer pairs, ?_, ?_⟩
    · simpa only [get_ofFields] using set
    · simpa only [get_ofFields] using unset

/-- A command line with an option behind the number and odd values. -/
private def oddLine : List RawText :=
  ["downstream-prs", "-r=a=b", "--owner", "-", "42", "--url-prefix=", "-t", "7"].map
    RawText.ofString

theorem agreement_of_number_oddLine :
    (split oddLine).info = none ∧ (split oddLine).pullRequestNumber = .ok 42 ∧
      Agreement oddLine 42 ∧
      (options oddLine.tail).map (fun given => (given.field, given.value?)) =
        [(.repository, some (RawText.ofString "a=b")), (.owner, some (RawText.ofString "-")),
          (.linkStart, some []), (.token, some (RawText.ofString "7"))] := by
  have scan : (split oddLine).info = none := by decide +kernel
  have named : (split oddLine).pullRequestNumber = .ok 42 := by decide +kernel
  exact ⟨scan, named, agreement_of_number scan named, by decide +kernel⟩

end DependencyLinks.CommandLine
