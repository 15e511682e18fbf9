import DependencyLinks.Proofs.Text.Cut
import DependencyLinks.Proofs.Text.Hexadecimal
import DependencyLinks.Text.Blank
import DependencyLinks.Text.Quoted

/-! Quoted texts are read back, whatever they hold and whatever follows them, and all their
characters can be shown in one line. -/

namespace DependencyLinks.Text

/-- The general category Cc of Unicode. -/
def controlRanges : List Range := [(0x00, 0x1F), (0x7F, 0x9F)]

/-- Takes a place in a line: no control, and no white space but the space. -/
structure Legible (c : Char) : Prop where
  uncontrolled : inRanges controlRanges c = false
  filled : blank c = true → c = ' '

/-- Every character of the text takes a place in a line. -/
def OneLine (s : String) : Prop :=
  ∀ c ∈ s.toList, Legible c

theorem oneLine_append {s t : String} : OneLine (s ++ t) ↔ OneLine s ∧ OneLine t := by
  rw [OneLine, String.toList_append, List.forall_mem_append]
  rfl

instance (c : Char) : Decidable (Legible c) :=
  decidable_of_iff (inRanges controlRanges c = false ∧ (blank c = true → c = ' '))
    ⟨fun both => ⟨both.1, both.2⟩, fun legible => ⟨legible.uncontrolled, legible.filled⟩⟩

instance (s : String) : Decidable (OneLine s) :=
  List.decidableBAll Legible s.toList

/-- Every range is part of one of the others. -/
def Covered (ranges others : List Range) : Prop :=
  ∀ range ∈ ranges, ∃ other ∈ others, other.1 ≤ range.1 ∧ range.2 ≤ other.2

theorem Covered.inRanges {ranges others : List Range} (covered : Covered ranges others) {c : Char}
    (inside : inRanges ranges c = true) : Text.inRanges others c = true := by
  obtain ⟨range, member, above, below⟩ := (inRanges_iff ranges c).mp inside
  obtain ⟨other, member, first, last⟩ := covered range member
  exact (inRanges_iff others c).mpr ⟨other, member, first.trans above, below.trans last⟩

theorem control_covered : Covered controlRanges unprintableRanges := by
  unfold Covered
  decide +kernel

/-- The space is the only white space that can be printed. -/
theorem blank_covered :
    Covered (blankRanges.filter (· != (0x20, 0x20))) unprintableRanges := by
  unfold Covered
  decide +kernel

theorem legible_of_printable {c : Char} (printable : unprintable c = false) : Legible c := by
  constructor
  case uncontrolled =>
    by_contra control
    rw [Bool.not_eq_false] at control
    rw [unprintable, control_covered.inRanges control] at printable
    cases printable
  case filled =>
    intro white
    by_contra other
    obtain ⟨range, member, above, below⟩ := (inRanges_iff blankRanges c).mp white
    have kept : range ∈ blankRanges.filter (· != (0x20, 0x20)) := by
      rw [List.mem_filter, bne_iff_ne]
      refine ⟨member, ?_⟩
      rintro rfl
      exact other (Char.toNat_inj.mp (Nat.le_antisymm below above))
    rw [unprintable, blank_covered.inRanges ((inRanges_iff _ c).mpr ⟨range, kept, above, below⟩)]
      at printable
    cases printable

theorem legible_of_mem_toDigits {base n : Nat} {c : Char} (several : 1 < base) (few : base ≤ 16)
    (member : c ∈ Nat.toDigits base n) : Legible c :=
  of_mem_toDigits (by decide) several few member

namespace Quoted

open Settings.Value (hex? char?)

/-- What a letter behind a backslash stands for. -/
def short? : Char → Option Char
  | '"' => some '"'
  | '\\' => some '\\'
  | 't' => some '\t'
  | 'n' => some '\n'
  | 'r' => some '\r'
  | '0' => some '\x00'
  | _ => none

/-- Reads one character of a quoted text, and what is behind it. -/
def readChar? : List Char → Option (Char × List Char)
  | '\\' :: 'u' :: '\x7b' :: rest =>
    match cutOnce '\x7d' rest with
    | (digits, some behind) => do return (← char? (← hex? digits), behind)
    | (_, none) => none
  | '\\' :: letter :: rest => (short? letter).map (·, rest)
  | c :: rest => if c = '\\' ∨ c = '"' then none else some (c, rest)
  | [] => none

theorem length_of_readChar? {cs rest : List Char} {c : Char} (read : readChar? cs = some (c, rest)) :
    rest.length < cs.length := by
  unfold readChar? at read
  split at read
  next behind =>
    split at read
    next digits later cut =>
      have shorter := (List.dropWhile_suffix (l := behind) (· != '\x7d')).length_le
      have tail : (behind.dropWhile (· != '\x7d')).tail? = some later := congrArg Prod.snd cut
      simp only [bind, Option.bind_eq_some_iff, pure, Option.some.injEq, Prod.mk.injEq] at read
      obtain ⟨-, -, -, -, -, rfl⟩ := read
      cases dropped : behind.dropWhile (· != '\x7d') with
      | nil => simp [dropped] at tail
      | cons mark more =>
        rw [dropped, List.tail?_cons, Option.some.injEq] at tail
        rw [dropped, tail] at shorter
        simp only [List.length_cons] at shorter ⊢
        omega
    next => cases read
  next letter behind _ =>
    obtain ⟨_, -, same⟩ := Option.map_eq_some_iff.mp read
    cases same
    simp only [List.length_cons]
    omega
  next c behind _ =>
    split at read
    · cases read
    · cases read
      simp
  next => cases read

/-- Reads a quoted text behind its opening quote, and what is behind the closing one. -/
def decode? (cs : List Char) : Option (List Char × List Char) :=
  match cs with
  | '"' :: rest => some ([], rest)
  | cs =>
    match read : readChar? cs with
    | none => none
    | some (c, rest) =>
      have := length_of_readChar? read
      (decode? rest).map fun (inner, behind) => (c :: inner, behind)
termination_by cs.length

theorem closing_not_mem_toDigits (n : Nat) : '\x7d' ∉ Nat.toDigits 16 n := fun member =>
  of_mem_toDigits (p := (· ≠ '\x7d')) (by decide) (by decide) (by decide) member rfl

theorem readChar?_codePoint (c : Char) (rest : List Char) :
    readChar? (codePoint c ++ rest) = some (c, rest) := by
  have cut := cutOnce_append (closing_not_mem_toDigits c.toNat) rest
  simp only [codePoint, readChar?, List.cons_append, List.nil_append, List.append_assoc, cut,
    hex?_toDigits, char?_toNat, bind, Option.bind_some, pure]

/-- Each character is read back from what is written for it. -/
theorem readChar?_escape (c : Char) (rest : List Char) :
    readChar? (escape c ++ rest) = some (c, rest) := by
  unfold escape
  split_ifs with quote backslash tab feed return' null hidden
  case pos | pos | pos | pos | pos | pos => subst c; rfl
  case pos => exact readChar?_codePoint c rest
  case neg => simp [readChar?, quote, backslash]

theorem decode?_of_readChar? {cs rest : List Char} {c : Char}
    (read : readChar? cs = some (c, rest)) :
    decode? cs = (decode? rest).map fun (inner, behind) => (c :: inner, behind) := by
  rw [decode?.eq_def]
  split
  next => simp [readChar?] at read
  next =>
    split
    next nothing => simp [nothing] at read
    next first behind found =>
      rw [found, Option.some.injEq, Prod.mk.injEq] at read
      obtain ⟨rfl, rfl⟩ := read
      rfl

/-- A quoted text ends with its own closing quote, and all of it is read back. -/
theorem decode?_encode (cs rest : List Char) :
    decode? (cs.flatMap escape ++ '"' :: rest) = some (cs, rest) := by
  induction cs with
  | nil => simp [decode?]
  | cons c cs ih =>
    rw [List.flatMap_cons, List.append_assoc, decode?_of_readChar? (readChar?_escape c _), ih]
    rfl

theorem legible_codePoint {c d : Char} (member : d ∈ codePoint c) : Legible d := by
  simp only [codePoint, List.mem_append, List.mem_cons, List.not_mem_nil, or_false] at member
  rcases member with ((rfl | rfl | rfl) | digit) | rfl
  case inl.inr => exact legible_of_mem_toDigits (by decide) (by decide) digit
  all_goals decide

theorem legible_escape {c d : Char} (member : d ∈ escape c) : Legible d := by
  unfold escape at member
  split_ifs at member with quote backslash tab feed return' null hidden
  case pos | pos | pos | pos | pos | pos =>
    simp only [List.mem_cons, List.not_mem_nil, or_false] at member
    rcases member with rfl | rfl <;> decide
  case pos => exact legible_codePoint member
  case neg =>
    rw [Bool.or_eq_true, not_or, Bool.not_eq_true, Bool.not_eq_true] at hidden
    rw [List.mem_singleton.mp member]
    exact legible_of_printable hidden.2

end Quoted

/-- A quoted text is told by any text that starts with it, and so is what is behind it. -/
theorem quoted_append_inj {s t after after' : String} :
    quoted s ++ after = quoted t ++ after' ↔ s = t ∧ after = after' := by
  constructor
  · intro same
    have rows := congrArg String.toList same
    simp only [quoted, Quoted.encode, String.toList_append, String.toList_ofList, List.cons_append,
      List.append_assoc, List.cons.injEq, List.nil_append, true_and] at rows
    have read := congrArg Quoted.decode? rows
    rw [Quoted.decode?_encode, Quoted.decode?_encode, Option.some.injEq, Prod.mk.injEq,
      String.toList_inj, String.toList_inj] at read
    exact read
  · rintro ⟨rfl, rfl⟩
    rfl

theorem quoted_inj {s t : String} : quoted s = quoted t ↔ s = t := by
  have alike : quoted s ++ "" = quoted t ++ "" ↔ s = t ∧ "" = "" := quoted_append_inj
  rwa [String.append_empty, String.append_empty, and_iff_left rfl] at alike

theorem oneLine_quoted (s : String) : OneLine (quoted s) := by
  intro c member
  simp only [quoted, Quoted.encode, String.toList_ofList, List.cons_append, List.mem_cons,
    List.mem_append, List.mem_flatMap, List.not_mem_nil, or_false] at member
  rcases member with rfl | ⟨d, -, inside⟩ | rfl
  · decide
  · exact Quoted.legible_escape inside
  · decide

theorem oneLine_toString (n : Nat) : OneLine (toString n) := by
  intro c member
  rw [Nat.toString_eq_repr, Nat.toList_repr] at member
  exact legible_of_mem_toDigits (by decide) (by decide) member

end DependencyLinks.Text
