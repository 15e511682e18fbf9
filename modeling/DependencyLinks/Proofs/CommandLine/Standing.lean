import DependencyLinks.Proofs.CommandLine.Pieces

/-! Where reading a command line stands behind some of its arguments, and how what follows adds to
what is read by then. -/

namespace DependencyLinks.CommandLine

/-- Between two arguments reading is free for any argument, or waits for the value of an option,
or has a separator behind it. -/
inductive Standing where
  | complete
  | awaiting
  | separated
deriving DecidableEq, Repr

def Standing.next : Standing → RawText → Standing
  | complete, argument =>
    match Argument.ofRaw argument with
    | .separator => separated
    | .value _ false => awaiting
    | .positional | .info _ | .unknown _ | .value _ true => complete
  | awaiting, _ => complete
  | separated, _ => separated

/-- Where reading stands behind the arguments that follow the program name. -/
def standing (arguments : List RawText) : Standing :=
  arguments.foldl Standing.next .complete

theorem foldl_next_separated (arguments : List RawText) :
    arguments.foldl Standing.next .separated = .separated := by
  induction arguments with
  | nil => rfl
  | cons argument rest ih => exact ih

theorem standing_concat (arguments : List RawText) (argument : RawText) :
    standing (arguments ++ [argument]) = (standing arguments).next argument := by
  rw [standing, List.foldl_append]
  rfl

theorem outranking_assoc (a b c : Option InfoRequest) :
    InfoRequest.outranking (InfoRequest.outranking a b) c =
      InfoRequest.outranking a (InfoRequest.outranking b c) := by
  rcases a with - | (- | -) <;> rcases b with - | (- | -) <;> rcases c with - | (- | -) <;> rfl

theorem append_eq (a b : CommandLine) : a ++ b = join a b := rfl

theorem append_assoc (a b c : CommandLine) : a ++ b ++ c = a ++ (b ++ c) := by
  simp only [append_eq, join, List.append_assoc, outranking_assoc]

theorem nil_append (line : CommandLine) : {} ++ line = line := by
  simp only [append_eq, join, List.nil_append, outranking_none_left]

/-- What was read into `line` so far, read on from where it stands. -/
def readOn (line : CommandLine) : Standing → List RawText → CommandLine
  | .separated, more => { line with positionals := line.positionals ++ more }
  | .awaiting, value :: more => { line with flags := line.flags ++ [value] } ++ ofArguments more
  | _, more => line ++ ofArguments more

theorem append_readOn (first line : CommandLine) (standing : Standing) (more : List RawText) :
    first ++ readOn line standing more = readOn (first ++ line) standing more := by
  cases standing with
  | complete => exact (append_assoc _ _ _).symm
  | awaiting =>
    cases more with
    | nil => exact (append_assoc _ _ _).symm
    | cons value more =>
      simp only [readOn, append_eq, join, List.append_assoc, outranking_assoc]
  | separated => simp only [readOn, append_eq, join, List.append_assoc]

theorem ofArguments_append (before after : List RawText) :
    ofArguments (before ++ after) = readOn (ofArguments before) (standing before) after := by
  fun_induction ofArguments before with
  | case1 => exact (nil_append _).symm
  | case2 argument rest read =>
    have stands : standing (argument :: rest) = .separated := by
      rw [standing, List.foldl_cons, Standing.next, read, foldl_next_separated]
    rw [List.cons_append, ofArguments.eq_def, stands]
    simp only [read]
    rfl
  | case3 argument rest read ih | case4 argument rest request read ih
  | case5 argument rest name read ih | case6 argument rest field read ih =>
    have stands : standing (argument :: rest) = standing rest := by
      rw [standing, List.foldl_cons, Standing.next, read]
      rfl
    rw [List.cons_append, ofArguments.eq_def, stands, ← append_readOn, ← ih]
    simp only [read]
  | case7 argument field read =>
    have stands : standing [argument] = .awaiting := by
      rw [standing, List.foldl_cons, Standing.next, read]
      rfl
    rw [List.singleton_append, ofArguments.eq_def, stands]
    simp only [read]
    cases after <;> rfl
  | case8 argument field read value rest ih =>
    have stands : standing (argument :: value :: rest) = standing rest := by
      rw [standing, List.foldl_cons, Standing.next, read]
      rfl
    rw [List.cons_append, List.cons_append, ofArguments.eq_def, stands, ← append_readOn, ← ih]
    simp only [read]

theorem split_append (program : RawText) (before after : List RawText) :
    split (program :: (before ++ after)) =
      readOn (split (program :: before)) (standing before) after := by
  change { flags := [program] } ++ ofArguments (before ++ after) =
    readOn ({ flags := [program] } ++ ofArguments before) (standing before) after
  rw [ofArguments_append, append_readOn]

theorem split_append_of_complete {before : List RawText} (program : RawText)
    (after : List RawText) (stands : standing before = .complete) :
    split (program :: (before ++ after)) = split (program :: before) ++ ofArguments after := by
  rw [split_append, stands]
  rfl

/-- Two command lines of one program as one, which names the program once. -/
def followedBy (line more : CommandLine) : CommandLine :=
  line ++ { more with flags := more.flags.tail }

theorem followedBy_split (line : CommandLine) (program : RawText) (more : List RawText) :
    line.followedBy (split (program :: more)) = line ++ ofArguments more := by
  rw [followedBy, split_eq]
  rfl

/-- One positional argument more, put in where reading is complete, where there is no other. -/
theorem split_insert {before after : List RawText} (program : RawText) {raw : RawText}
    (stands : standing before = .complete) (read : Argument.ofRaw raw = .positional)
    (alone : (split (program :: (before ++ after))).positionals = []) :
    split (program :: (before ++ raw :: after)) =
      { split (program :: (before ++ after)) with positionals := [raw] } := by
  have cons : ofArguments (raw :: after) = { positionals := [raw] } ++ ofArguments after := by
    rw [ofArguments.eq_def]
    simp only [read]
  rw [split_append_of_complete program after stands] at alone ⊢
  obtain ⟨first, last⟩ := List.append_eq_nil_iff.mp alone
  rw [split_append_of_complete program _ stands, cons]
  simp only [append_eq, join, first, last, outranking_none_left, List.nil_append,
    List.append_nil]

/-- How `before` and `after`, one behind the other, are read behind the name of the program, told by
how each of them is read. A positional argument reads alike wherever reading is complete. -/
structure Composes (program : RawText) (before after : List RawText) : Prop where
  separated : standing before = .separated →
    split (program :: (before ++ after)) =
      { split (program :: before) with
        positionals := (split (program :: before)).positionals ++ after }
  awaited : ∀ value rest, standing before = .awaiting → after = value :: rest →
    split (program :: (before ++ after)) =
      { split (program :: before) with
        flags := (split (program :: before)).flags ++ [value] }.followedBy
          (split (program :: rest))
  otherwise : standing before ≠ .separated → (standing before = .awaiting → after = []) →
    split (program :: (before ++ after)) =
      (split (program :: before)).followedBy (split (program :: after))
  anywhere : ∀ raw first last, first ++ last = before ++ after → Argument.ofRaw raw = .positional →
    (split (program :: (before ++ after))).positionals = [] →
    standing before = .complete → standing first = .complete →
    split (program :: (before ++ raw :: after)) = split (program :: (first ++ raw :: last))

/-- Where reading stands between two parts of a command line decides how they are put together. -/
theorem split_composes (program : RawText) (before after : List RawText) :
    Composes program before after := by
  refine ⟨?separated, ?awaited, ?otherwise, ?anywhere⟩
  case separated =>
    intro stands
    rw [split_append, stands, readOn]
  case awaited =>
    rintro value rest stands rfl
    rw [split_append, stands, readOn, followedBy_split]
  case otherwise =>
    intro unseparated nothing
    rw [split_append, followedBy_split]
    cases stands : standing before with
    | complete => rfl
    | awaiting =>
      rw [nothing stands]
      rfl
    | separated => contradiction
  case anywhere =>
    intro raw first last same read alone stands others
    rw [split_insert program stands read alone, ← same]
    exact (split_insert program others read (same ▸ alone)).symm

example : split (["links", "5", "-o", "--"].map RawText.ofString) =
    split (["links", "-o", "--", "5"].map RawText.ofString) := by decide +kernel

end DependencyLinks.CommandLine
