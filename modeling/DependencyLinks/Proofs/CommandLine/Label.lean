import DependencyLinks.Proofs.CommandLine.Name
import DependencyLinks.Proofs.CommandLine.Standing

/-! How the arguments of a command line are dealt out: each of them gets one label, and what is read
under a label is what has that label, in order. -/

namespace DependencyLinks

open Settings

/-- What becomes of an argument behind the program name. -/
inductive Label where
  | positional
  | flag
  | unknown
  | separator
deriving DecidableEq, Repr

namespace Argument

/-- The label of an argument that stands where an option may stand. -/
def label : Argument → Label
  | separator => .separator
  | positional => .positional
  | info _ | value _ _ => .flag
  | unknown _ => .unknown

theorem eq_separator_of_label {argument : Argument} (same : argument.label = .separator) :
    argument = separator := by
  cases argument with
  | separator => rfl
  | positional | info | value | unknown => cases same

theorem eq_positional_of_label {argument : Argument} (same : argument.label = .positional) :
    argument = positional := by
  cases argument with
  | positional => rfl
  | separator | info | value | unknown => cases same

theorem eq_separator_of_ofText {cs : List Char} (read : ofText cs = separator) :
    cs = ['-', '-'] := by
  unfold ofText at read
  split at read
  next same => exact same
  next other =>
    repeat' split at read
    all_goals cases read

theorem plain_of_ofText {cs : List Char} (read : ofText cs = positional) :
    cs.head? ≠ some '-' ∨ cs = ['-'] := by
  unfold ofText at read
  split at read
  · cases read
  next other =>
  split at read
  next plain => exact plain
  next option =>
    repeat' split at read
    all_goals cases read

theorem eq_unknown_of_ofText {cs : List Char} {own : String} (read : ofText cs = unknown own) :
    own = name cs := by
  unfold ofText at read
  repeat' split at read
  all_goals cases read
  rfl

theorem eq_separator_of_ofRaw {raw : RawText} (read : ofRaw raw = separator) :
    raw = RawText.ofString "--" :=
  (Utf8.lossy_eq_iff_of_all (s := "--") (by decide)).mp (eq_separator_of_ofText read)

theorem plain_of_ofRaw {raw : RawText} (read : ofRaw raw = positional) :
    raw.head? ≠ some Arguments.dash ∨ raw = [Arguments.dash] := by
  rcases plain_of_ofText read with other | same
  · exact .inl fun dashed => other ((Utf8.head?_lossy_iff (by decide)).mpr dashed)
  · exact .inr ((Utf8.lossy_eq_iff_of_all (s := "-") (by decide)).mp same)

end Argument

namespace CommandLine

/-- Arguments, each with its label. -/
abbrev Labelled := List (Label × RawText)

namespace Labelled

def labelAt? (labelled : Labelled) (place : Nat) : Option Label :=
  labelled[place]?.map Prod.fst

/-- The arguments with one label, in order. -/
def under (labelled : Labelled) (label : Label) : List RawText :=
  labelled.filterMap fun (own, argument) => if own = label then some argument else none

/-- The argument at a place is the value of the one in front of it, which is forwarded, names an
option and no value with it, and is no value itself. -/
def IsValue (labelled : Labelled) : Nat → Prop
  | 0 => False
  | place + 1 =>
    (∃ field name, Field.Named field name ∧
      labelled[place]? = some (.flag, RawText.ofString name)) ∧ ¬ IsValue labelled place

/-- An argument in front of a place is a separator. -/
def SeparatedBefore (labelled : Labelled) (place : Nat) : Prop :=
  ∃ earlier < place, labelled.labelAt? earlier = some .separator

end Labelled

def Standing.label : Standing → RawText → Label
  | complete, argument => (Argument.ofRaw argument).label
  | awaiting, _ => .flag
  | separated, _ => .positional

/-- The arguments with their labels, from where reading stands. -/
def labelled : Standing → List RawText → Labelled
  | _, [] => []
  | standing, argument :: rest =>
    (standing.label argument, argument) :: labelled (standing.next argument) rest

theorem map_snd_labelled (stands : Standing) (arguments : List RawText) :
    (labelled stands arguments).map Prod.snd = arguments := by
  induction arguments generalizing stands with
  | nil => rfl
  | cons argument rest ih => rw [labelled, List.map_cons, ih]

theorem getElem?_labelled (stands : Standing) (arguments : List RawText) (place : Nat) :
    (labelled stands arguments)[place]? = arguments[place]?.map fun argument =>
      (((arguments.take place).foldl Standing.next stands).label argument, argument) := by
  induction arguments generalizing stands place with
  | nil => rfl
  | cons argument rest ih =>
    cases place with
    | zero => rfl
    | succ place => exact ih (stands.next argument) place

theorem labelled_separated (arguments : List RawText) :
    labelled .separated arguments = arguments.map (.positional, ·) := by
  induction arguments with
  | nil => rfl
  | cons argument rest ih => rw [List.map_cons, ← ih]; rfl

theorem under_cons (own label : Label) (argument : RawText) (rest : Labelled) :
    Labelled.under ((own, argument) :: rest) label =
      if own = label then argument :: rest.under label else rest.under label := by
  by_cases same : own = label <;> simp [Labelled.under, same]

theorem under_positionals (arguments : List RawText) (label : Label) :
    Labelled.under (arguments.map (.positional, ·)) label =
      if .positional = label then arguments else [] := by
  induction arguments with
  | nil => cases label <;> rfl
  | cons argument rest ih =>
    rw [List.map_cons, under_cons, ih]
    cases label <;> rfl

/-- What is read under each label is what has that label. -/
theorem ofArguments_under (arguments : List RawText) :
    (ofArguments arguments).positionals = (labelled .complete arguments).under .positional ∧
      (ofArguments arguments).flags = (labelled .complete arguments).under .flag ∧
      (ofArguments arguments).unknown = ((labelled .complete arguments).under .unknown).map
        fun argument => Argument.name (Utf8.lossy argument) := by
  fun_induction ofArguments arguments with
  | case1 => exact ⟨rfl, rfl, rfl⟩
  | case2 argument rest read =>
    have moves : Standing.complete.next argument = .separated := by rw [Standing.next, read]
    rw [labelled, moves, Standing.label, read, labelled_separated]
    simp only [under_cons, under_positionals]
    exact ⟨rfl, rfl, rfl⟩
  | case3 argument rest read ih | case4 argument rest request read ih
  | case6 argument rest field read ih =>
    have stays : Standing.complete.next argument = .complete := by rw [Standing.next, read]
    rw [labelled, stays, Standing.label, read]
    simp only [under_cons, append_eq, join, ih]
    exact ⟨rfl, rfl, rfl⟩
  | case5 argument rest name read ih =>
    have stays : Standing.complete.next argument = .complete := by rw [Standing.next, read]
    rw [labelled, stays, Standing.label, read, Argument.eq_unknown_of_ofText read]
    simp only [under_cons, append_eq, join, ih]
    exact ⟨rfl, rfl, rfl⟩
  | case7 argument field read =>
    rw [labelled, Standing.label, read, labelled]
    exact ⟨rfl, rfl, rfl⟩
  | case8 argument field read value rest ih =>
    have moves : Standing.complete.next argument = .awaiting := by rw [Standing.next, read]
    rw [labelled, moves, Standing.label, read, labelled, Standing.label, Standing.next]
    simp only [under_cons, append_eq, join, ih]
    exact ⟨rfl, rfl, rfl⟩

theorem Standing.next_eq_awaiting_iff {stands : Standing} {argument : RawText} :
    stands.next argument = .awaiting ↔
      stands = .complete ∧ ∃ field, Argument.ofRaw argument = .value field false := by
  cases stands with
  | complete =>
    rw [Standing.next]
    cases Argument.ofRaw argument with
    | value field inline => cases inline <;> simp
    | separator | positional | info | unknown => simp
  | awaiting | separated => simp [Standing.next]

theorem Standing.next_eq_separated_iff {stands : Standing} {argument : RawText} :
    stands.next argument = .separated ↔
      stands = .separated ∨ stands.label argument = .separator := by
  cases stands with
  | complete =>
    rw [Standing.next, Standing.label]
    cases Argument.ofRaw argument with
    | value field inline => cases inline <;> simp [Argument.label]
    | separator | positional | info | unknown => simp [Argument.label]
  | awaiting | separated => simp [Standing.next, Standing.label]

/-- The entry at a place, by where reading stands in front of it. -/
theorem getElem?_labelled_complete (arguments : List RawText) (place : Nat) :
    (labelled .complete arguments)[place]? = arguments[place]?.map fun argument =>
      ((standing (arguments.take place)).label argument, argument) :=
  getElem?_labelled _ arguments place

theorem standing_take_succ {arguments : List RawText} {place : Nat} {argument : RawText}
    (found : arguments[place]? = some argument) :
    standing (arguments.take (place + 1)) = (standing (arguments.take place)).next argument := by
  rw [List.take_add_one, found, Option.toList_some, standing_concat]

/-- Reading waits for a value in front of just the arguments that are one. -/
theorem isValue_labelled_iff (arguments : List RawText) {place : Nat}
    (inside : place ≤ arguments.length) :
    (labelled .complete arguments).IsValue place ↔
      standing (arguments.take place) = .awaiting := by
  induction place with
  | zero => exact ⟨False.elim, nofun⟩
  | succ place ih =>
    have found := List.getElem?_eq_getElem inside
    rw [Labelled.IsValue, ih (Nat.le_of_succ_le inside), getElem?_labelled_complete, found,
      standing_take_succ found, Standing.next_eq_awaiting_iff]
    generalize standing (arguments.take place) = stands
    generalize arguments[place] = argument
    constructor
    · rintro ⟨⟨field, name, named, entry⟩, free⟩
      obtain ⟨flagged, rfl⟩ := Prod.mk.inj (Option.some.inj entry)
      cases stands with
      | complete => exact ⟨rfl, field, Argument.value_of_named named⟩
      | awaiting => exact absurd rfl free
      | separated => cases flagged
    · rintro ⟨rfl, field, read⟩
      obtain ⟨name, named, rfl⟩ := Argument.ofRaw_eq_value_iff.mp read
      refine ⟨⟨field, name, named, ?_⟩, nofun⟩
      rw [Option.map_some, Standing.label, read]
      rfl

theorem separatedBefore_labelled_iff (arguments : List RawText) {place : Nat}
    (inside : place ≤ arguments.length) :
    (labelled .complete arguments).SeparatedBefore place ↔
      standing (arguments.take place) = .separated := by
  induction place with
  | zero => exact ⟨fun ⟨_, before, _⟩ => absurd before (Nat.not_lt_zero _), nofun⟩
  | succ place ih =>
    have found := List.getElem?_eq_getElem inside
    have here : (labelled .complete arguments).labelAt? place = some .separator ↔
        (standing (arguments.take place)).label arguments[place] = .separator := by
      rw [Labelled.labelAt?, getElem?_labelled_complete, found]
      exact Option.some_inj
    rw [standing_take_succ found, Standing.next_eq_separated_iff,
      ← ih (Nat.le_of_succ_le inside), ← here, Labelled.SeparatedBefore, Nat.exists_lt_succ_right]
    rfl

/-- A labelling that deals out the arguments of a command line. The arguments behind the program
name are all there and in order, what is read under a label is what has it, and the label of an
argument follows from its place and its own text. -/
structure Deals (arguments : List RawText) (labelled : Labelled) : Prop where
  whole : labelled.map Prod.snd = arguments.tail
  positionals : (split arguments).positionals = labelled.under .positional
  flags : (split arguments).flags = arguments.take 1 ++ labelled.under .flag
  unknown : (split arguments).unknown =
    (labelled.under .unknown).map fun argument => Argument.name (Utf8.lossy argument)
  once : ∀ place other, labelled.labelAt? place = some .separator →
    labelled.labelAt? other = some .separator → place = other
  spelled : ∀ (place : Nat) argument, labelled[place]? = some (.separator, argument) →
    argument = RawText.ofString "--"
  behind : ∀ place label, labelled.SeparatedBefore place →
    labelled.labelAt? place = some label → label = .positional
  value : ∀ place label, labelled.IsValue place → labelled.labelAt? place = some label →
    label = .flag
  dashed : ∀ (place : Nat) argument, ¬ labelled.IsValue place → ¬ labelled.SeparatedBefore place →
    argument.head? = some Arguments.dash → argument ≠ [Arguments.dash] →
    labelled[place]? ≠ some (.positional, argument)
  own : ∀ (place : Nat) label argument, ¬ labelled.IsValue place →
    ¬ labelled.SeparatedBefore place → labelled[place]? = some (label, argument) →
    label = (Argument.ofRaw argument).label

/-- An entry tells the argument at its place and where reading stands in front of it. -/
theorem label_of_entry {arguments : List RawText} {place : Nat} {label : Label}
    {argument : RawText} (entry : (labelled .complete arguments)[place]? = some (label, argument)) :
    place ≤ arguments.length ∧ label = (standing (arguments.take place)).label argument := by
  rw [getElem?_labelled_complete] at entry
  obtain ⟨own, found, same⟩ := Option.map_eq_some_iff.mp entry
  obtain ⟨rfl, rfl⟩ := Prod.mk.inj same
  exact ⟨(List.getElem?_eq_some_iff.mp found).1.le, rfl⟩

theorem label_of_labelAt? {arguments : List RawText} {place : Nat} {label : Label}
    (there : (labelled .complete arguments).labelAt? place = some label) :
    place ≤ arguments.length ∧ ∃ argument,
      label = (standing (arguments.take place)).label argument := by
  obtain ⟨⟨own, argument⟩, entry, rfl⟩ := Option.map_eq_some_iff.mp there
  obtain ⟨inside, same⟩ := label_of_entry entry
  exact ⟨inside, argument, same⟩

theorem label_of_separatedBefore {arguments : List RawText} {place : Nat} {label : Label}
    (before : (labelled .complete arguments).SeparatedBefore place)
    (there : (labelled .complete arguments).labelAt? place = some label) :
    label = .positional := by
  obtain ⟨inside, argument, same⟩ := label_of_labelAt? there
  rw [same, (separatedBefore_labelled_iff arguments inside).mp before]
  rfl

theorem label_of_isValue {arguments : List RawText} {place : Nat} {label : Label}
    (value : (labelled .complete arguments).IsValue place)
    (there : (labelled .complete arguments).labelAt? place = some label) : label = .flag := by
  obtain ⟨inside, argument, same⟩ := label_of_labelAt? there
  rw [same, (isValue_labelled_iff arguments inside).mp value]
  rfl

theorem label_of_own {arguments : List RawText} {place : Nat} {label : Label}
    {argument : RawText} (free : ¬ (labelled .complete arguments).IsValue place)
    (before : ¬ (labelled .complete arguments).SeparatedBefore place)
    (entry : (labelled .complete arguments)[place]? = some (label, argument)) :
    label = (Argument.ofRaw argument).label := by
  obtain ⟨inside, same⟩ := label_of_entry entry
  rw [isValue_labelled_iff arguments inside] at free
  rw [separatedBefore_labelled_iff arguments inside] at before
  cases stands : standing (arguments.take place) with
  | complete => rw [same, stands, Standing.label]
  | awaiting => contradiction
  | separated => contradiction

theorem eq_separator_of_entry {arguments : List RawText} {place : Nat} {argument : RawText}
    (entry : (labelled .complete arguments)[place]? = some (.separator, argument)) :
    argument = RawText.ofString "--" := by
  obtain ⟨-, same⟩ := label_of_entry entry
  cases stands : standing (arguments.take place) with
  | complete =>
    rw [stands, Standing.label] at same
    exact Argument.eq_separator_of_ofRaw (Argument.eq_separator_of_label same.symm)
  | awaiting | separated =>
    rw [stands] at same
    cases same

/-- The arguments of every command line are dealt out by a labelling. -/
theorem exists_labelling (arguments : List RawText) :
    ∃ labelled : Labelled, Deals arguments labelled := by
  obtain ⟨positionals, flags, unknown⟩ := ofArguments_under arguments.tail
  refine ⟨labelled .complete arguments.tail, ?_⟩
  exact {
    whole := map_snd_labelled .complete arguments.tail
    positionals := by rw [split_eq, positionals]
    flags := by rw [split_eq, flags]
    unknown := by rw [split_eq, unknown]
    once := by
      intro place other first second
      -- Whichever stands behind the other one has to be positional.
      rcases Nat.lt_trichotomy place other with less | same | more
      · cases label_of_separatedBefore ⟨place, less, first⟩ second
      · exact same
      · cases label_of_separatedBefore ⟨other, more, second⟩ first
    spelled := fun _ _ => eq_separator_of_entry
    behind := fun _ _ => label_of_separatedBefore
    value := fun _ _ => label_of_isValue
    dashed := by
      intro place argument free before dashed more entry
      have plain := Argument.eq_positional_of_label (label_of_own free before entry).symm
      exact (Argument.plain_of_ofRaw plain).elim (· dashed) more
    own := fun _ _ _ => label_of_own }

example : (labelled .complete (["-t", "--", "-", "--no", "-o=a", "--", "-x"].map
      RawText.ofString)).map Prod.fst =
    [.flag, .flag, .positional, .unknown, .flag, .separator, .positional] := by decide +kernel

end CommandLine

end DependencyLinks
