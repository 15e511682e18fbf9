import DependencyLinks.CommandLine.Split
import DependencyLinks.Proofs.Settings.Given

/-! A command line as the pieces that it is cut into. -/

namespace DependencyLinks.CommandLine

open Settings

/-- What stands together on a command line. An option comes with the argument it takes along. -/
inductive Piece where
  | separator (argument : RawText)
  | positional (argument : RawText)
  | info (request : InfoRequest) (argument : RawText)
  | unknown (name : String) (argument : RawText)
  | option (given : Given)
deriving DecidableEq, Repr

namespace Piece

def raws : Piece → List RawText
  | separator argument | positional argument | info _ argument | unknown _ argument => [argument]
  | option given => given.raws

def positional? : Piece → Option RawText
  | positional argument => some argument
  | _ => none

def unknown? : Piece → Option String
  | unknown name _ => some name
  | _ => none

def info? : Piece → Option InfoRequest
  | info request _ => some request
  | _ => none

def given? : Piece → Option Given
  | option given => some given
  | _ => none

/-- The arguments of a piece that are forwarded. -/
def flags : Piece → List RawText
  | info _ argument => [argument]
  | option given => given.raws
  | separator _ | positional _ | unknown _ _ => []

end Piece

/-- What stands behind the first equals sign. -/
def behindEquals (raw : RawText) : RawText :=
  (raw.dropWhile (· != Arguments.equalsSign)).tail

/-- Cuts the arguments behind the program name. -/
def pieces : List RawText → List Piece
  | [] => []
  | argument :: rest =>
    match Argument.ofRaw argument with
    | .separator => .separator argument :: rest.map .positional
    | .positional => .positional argument :: pieces rest
    | .info request => .info request argument :: pieces rest
    | .unknown name => .unknown name argument :: pieces rest
    | .value field true => .option (.inline field argument (behindEquals argument)) :: pieces rest
    | .value field false =>
      match rest with
      | [] => [.option (.unfinished field argument)]
      | value :: rest => .option (.separate field argument value) :: pieces rest

/-- The pieces of a command line, sorted by kind. -/
def sorted (pieces : List Piece) : CommandLine where
  positionals := pieces.filterMap Piece.positional?
  flags := pieces.flatMap Piece.flags
  unknown := pieces.filterMap Piece.unknown?
  info := pieces.foldr (fun piece => InfoRequest.outranking piece.info?) none

/-- The options of a command line, in the order in which they are given. -/
def options (arguments : List RawText) : List Given :=
  (pieces arguments).filterMap Piece.given?

theorem flatMap_raws_pieces (arguments : List RawText) :
    (pieces arguments).flatMap Piece.raws = arguments := by
  fun_induction pieces arguments with
  | case1 => rfl
  | case2 argument rest read => simp [Piece.raws, List.flatMap_map]
  | case3 argument rest read ih => simp [Piece.raws, ih]
  | case4 argument rest request read ih => simp [Piece.raws, ih]
  | case5 argument rest name read ih => simp [Piece.raws, ih]
  | case6 argument rest field read ih => simp [Piece.raws, Given.raws, ih]
  | case7 argument field read => rfl
  | case8 argument field read value rest ih => simp [Piece.raws, Given.raws, ih]

/-- What holds of no options, and goes on to hold with one more option in front, holds of the
options of every command line. Only the last one can lack its value. -/
theorem options_induction {motive : List Given → Prop} (arguments : List RawText)
    (nothing : motive [])
    (inline : ∀ field argument given, Argument.ofRaw argument = .value field true → motive given →
      motive (.inline field argument (behindEquals argument) :: given))
    (unfinished : ∀ field argument, Argument.ofRaw argument = .value field false →
      motive [.unfinished field argument])
    (separate : ∀ field argument value given, Argument.ofRaw argument = .value field false →
      motive given → motive (.separate field argument value :: given)) :
    motive (options arguments) := by
  unfold options
  fun_induction pieces arguments with
  | case1 => exact nothing
  | case2 argument rest read =>
    have none : (rest.map Piece.positional).filterMap Piece.given? = [] := by
      simp [List.filterMap_map, Piece.given?]
    rw [List.filterMap_cons_none rfl, none]
    exact nothing
  | case3 argument rest read ih => exact ih
  | case4 argument rest request read ih => exact ih
  | case5 argument rest name read ih => exact ih
  | case6 argument rest field read ih => exact inline field argument _ read ih
  | case7 argument field read => exact unfinished field argument read
  | case8 argument field read value rest ih => exact separate field argument value _ read ih

theorem sorted_cons (piece : Piece) (rest : List Piece) :
    sorted (piece :: rest) =
      { positionals := piece.positional?.toList
        flags := piece.flags
        unknown := piece.unknown?.toList
        info := piece.info? } ++ sorted rest := by
  cases piece <;> rfl

theorem sorted_positionals (arguments : List RawText) :
    sorted (arguments.map .positional) = { positionals := arguments } := by
  induction arguments with
  | nil => rfl
  | cons argument rest ih => rw [List.map_cons, sorted_cons, ih]; rfl

/-- Splitting a command line is sorting its pieces. -/
theorem ofArguments_eq_sorted (arguments : List RawText) :
    ofArguments arguments = sorted (pieces arguments) := by
  fun_induction pieces arguments with
  | case1 => rfl
  | case2 argument rest read =>
    rw [ofArguments.eq_def, sorted_cons, sorted_positionals]
    simp only [read]
    rfl
  | case3 argument rest read ih | case4 argument rest request read ih
  | case5 argument rest name read ih | case6 argument rest field read ih =>
    rw [ofArguments.eq_def, sorted_cons, ← ih]
    simp only [read]
    rfl
  | case7 argument field read =>
    rw [ofArguments.eq_def]
    simp only [read]
    rfl
  | case8 argument field read value rest ih =>
    rw [ofArguments.eq_def, sorted_cons, ← ih]
    simp only [read]
    rfl

theorem outranking_none_left (request : Option InfoRequest) :
    InfoRequest.outranking none request = request := by
  rcases request with - | (- | -) <;> rfl

theorem outranking_eq_none_iff {a b : Option InfoRequest} :
    InfoRequest.outranking a b = none ↔ a = none ∧ b = none := by
  rcases a with - | (- | -) <;> rcases b with - | (- | -) <;> simp [InfoRequest.outranking]

theorem info_sorted_eq_none_iff {pieces : List Piece} :
    (sorted pieces).info = none ↔ ∀ piece ∈ pieces, piece.info? = none := by
  induction pieces with
  | nil => simp [sorted]
  | cons piece rest ih =>
    rw [List.forall_mem_cons, ← ih]
    exact outranking_eq_none_iff

/-- Without a request for information the flags are those of the options. -/
theorem flags_of_no_info {arguments : List RawText} (scan : (ofArguments arguments).info = none) :
    (ofArguments arguments).flags = (options arguments).flatMap Given.raws := by
  rw [ofArguments_eq_sorted, info_sorted_eq_none_iff] at scan
  rw [ofArguments_eq_sorted, options]
  change (pieces arguments).flatMap Piece.flags = _
  generalize pieces arguments = cut at scan
  induction cut with
  | nil => rfl
  | cons piece rest ih =>
    rw [List.forall_mem_cons] at scan
    rw [List.flatMap_cons, ih scan.2]
    cases piece with
    | info request argument => cases scan.1
    | separator | positional | unknown | option => rfl

/-- The program name only joins the flags. -/
theorem split_eq (arguments : List RawText) :
    split arguments = { ofArguments arguments.tail with
      flags := arguments.take 1 ++ (ofArguments arguments.tail).flags } := by
  cases arguments with
  | nil => rfl
  | cons program rest =>
    change join { flags := [program] } (ofArguments rest) = _
    rw [join, outranking_none_left]
    rfl

theorem info_split (arguments : List RawText) :
    (split arguments).info = (ofArguments arguments.tail).info := by
  rw [split_eq]

theorem pullRequestNumber_split (arguments : List RawText) :
    (split arguments).pullRequestNumber = (ofArguments arguments.tail).pullRequestNumber := by
  rw [split_eq]
  rfl

theorem tail_flags_split (arguments : List RawText) :
    (split arguments).flags.tail = (ofArguments arguments.tail).flags := by
  cases arguments with
  | nil => rfl
  | cons program rest => rfl

theorem eq_of_pullRequestNumber {line : CommandLine} {number : Nat}
    (named : line.pullRequestNumber = .ok number) :
    line.unknown = [] ∧ ∃ raw, line.positionals = [raw] ∧
      Text.word? (Utf8.lossy raw) = some number := by
  unfold pullRequestNumber number? at named
  split at named
  · cases named
  next known =>
  split at named
  next raw single =>
    split at named
    next n read =>
      cases named
      exact ⟨known, raw, single, read⟩
    · cases named
  · cases named

/-- A command line that names a pull request consists of options, the one positional argument, and
perhaps a separator. -/
theorem exists_number {arguments : List RawText} {number : Nat}
    (scan : (ofArguments arguments).info = none)
    (named : (ofArguments arguments).pullRequestNumber = .ok number) :
    ∃ before raw after, pieces arguments = before ++ .positional raw :: after ∧
      Text.word? (Utf8.lossy raw) = some number ∧
      ∀ piece ∈ before ++ after, piece.given? = none → ∃ argument, piece = .separator argument := by
  obtain ⟨known, raw, single, read⟩ := eq_of_pullRequestNumber named
  rw [ofArguments_eq_sorted] at scan known single
  obtain ⟨before, piece, after, cut, others, found, later⟩ := List.filterMap_eq_cons_iff.mp single
  rw [List.filterMap_eq_nil_iff] at later
  rw [info_sorted_eq_none_iff] at scan
  have known := List.filterMap_eq_nil_iff.mp known
  cases piece with
  | positional argument =>
    obtain rfl : argument = raw := Option.some.inj found
    refine ⟨before, argument, after, cut, read, ?_⟩
    intro piece member ungiven
    have inside : piece ∈ pieces arguments := by
      rw [cut]
      rcases List.mem_append.mp member with member | member
      · exact List.mem_append_left _ member
      · exact List.mem_append_right _ (List.mem_cons_of_mem _ member)
    have unpositional : piece.positional? = none :=
      (List.mem_append.mp member).elim (others piece) (later piece)
    cases piece with
    | separator argument => exact ⟨argument, rfl⟩
    | positional argument => cases unpositional
    | info request argument => cases scan _ inside
    | unknown name argument => cases known _ inside
    | option given => cases ungiven
  | separator | info | unknown | option => cases found

end DependencyLinks.CommandLine
