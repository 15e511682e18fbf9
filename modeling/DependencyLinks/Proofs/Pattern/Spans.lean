import DependencyLinks.Proofs.Pattern.Lines

/-! Matches as spans of the text. A span holds the literal and the rest of the line in which the
literal ends, so it runs over several lines if the literal holds line feeds. -/

namespace DependencyLinks

namespace Occurrence

/-- The place behind the span of a match. -/
def stop (literal : List Char) (occurrence : Occurrence) : Nat :=
  occurrence.start + literal.length + occurrence.tail.length

/-- The part of the text that a match takes up. -/
def span (literal text : List Char) (occurrence : Occurrence) : List Char :=
  text.extract occurrence.start (occurrence.stop literal)

/-- A line starts at the start of the text and right behind each line feed. -/
def LineStart (text : List Char) (place : Nat) : Prop :=
  place = 0 ∨ text[place - 1]? = some '\n'

/-- The literal stands at a place where a line starts. -/
def Stands (literal text : List Char) (place : Nat) : Prop :=
  LineStart text place ∧ literal <+: text.drop place

/-- A match takes up the literal, from a line start, and what follows it up to the next line feed or
the end of the text. -/
structure Spans (literal text : List Char) (occurrence : Occurrence) : Prop where
  lineStart : LineStart text occurrence.start
  spelled : occurrence.span literal text = literal ++ occurrence.tail
  oneLine : '\n' ∉ occurrence.tail
  ends : LineEnding (text.drop (occurrence.stop literal))

variable {literal text rest : List Char} {place : Nat}
  {occurrence other : Occurrence}

theorem lineEnding_dropWhile (cs : List Char) : LineEnding (cs.dropWhile (· != '\n')) := by
  intro c rest split
  have kept := List.head?_dropWhile_not (· != '\n') cs
  rw [split] at kept
  simpa using kept

theorem lineEnd_append_dropWhile (cs : List Char) :
    lineEnd cs ++ cs.dropWhile (· != '\n') = cs :=
  List.takeWhile_append_dropWhile

theorem not_mem_lineEnd (cs : List Char) : '\n' ∉ lineEnd cs := by
  intro member
  have kept := List.all_takeWhile (p := (· != '\n')) (l := cs)
  simpa using List.all_eq_true.mp kept '\n' member

theorem stop_eq (literal : List Char) (occurrence : Occurrence) :
    occurrence.stop literal = occurrence.start + (literal ++ occurrence.tail).length := by
  rw [stop, List.length_append, Nat.add_assoc]

theorem Spans.drop_start (spans : occurrence.Spans literal text) :
    text.drop occurrence.start =
      literal ++ (occurrence.tail ++ text.drop (occurrence.stop literal)) := by
  have split := List.take_append_drop (occurrence.stop literal - occurrence.start)
    (text.drop occurrence.start)
  have forward : occurrence.start ≤ occurrence.stop literal := by
    unfold stop
    omega
  rw [← List.extract_eq_take_drop, List.drop_drop, Nat.add_sub_cancel' forward] at split
  rw [← List.append_assoc, ← spans.spelled]
  exact split.symm

theorem spans_of_drop {ending : List Char} (lineStart : LineStart text occurrence.start)
    (split : text.drop occurrence.start = literal ++ (occurrence.tail ++ ending))
    (oneLine : '\n' ∉ occurrence.tail) (ends : LineEnding ending) :
    occurrence.Spans literal text where
  lineStart := lineStart
  spelled := by
    rw [span, List.extract_eq_take_drop, split, stop_eq, Nat.add_sub_cancel_left,
      ← List.append_assoc, List.take_left]
  oneLine := oneLine
  ends := by
    rw [stop_eq, ← List.drop_drop, split, ← List.append_assoc, List.drop_left]
    exact ends

theorem Spans.stands (spans : occurrence.Spans literal text) :
    Stands literal text occurrence.start :=
  ⟨spans.lineStart, spans.drop_start ▸ List.prefix_append ..⟩

/-- A match is known from its place. -/
theorem Spans.tail_eq (spans : occurrence.Spans literal text) :
    occurrence.tail = lineEnd (text.drop (occurrence.start + literal.length)) := by
  rw [← List.drop_drop, spans.drop_start, List.drop_left, lineEnd_append spans.oneLine spans.ends]

/-- Wherever the literal stands, a match starts. -/
theorem Stands.spans (stands : Stands literal text place) :
    Spans literal text ⟨place, lineEnd (text.drop (place + literal.length))⟩ := by
  obtain ⟨lineStart, behind, split⟩ := stands
  have same : behind = text.drop (place + literal.length) := by
    rw [← List.drop_drop, ← split, List.drop_left]
  refine spans_of_drop lineStart ?_ (not_mem_lineEnd _) (lineEnding_dropWhile behind)
  rw [← same, lineEnd_append_dropWhile, split]

theorem Stands.place_le (stands : Stands literal text place) : place ≤ text.length := by
  rcases stands.1 with rfl | feed
  · exact Nat.zero_le _
  · have inside := (List.getElem?_eq_some_iff.mp feed).1
    omega

theorem getLast?_append_eq_feed {front tail : List Char} (oneLine : '\n' ∉ tail) :
    (front ++ tail).getLast? = some '\n' ↔ tail = [] ∧ front.getLast? = some '\n' := by
  cases tail with
  | nil => simp
  | cons c cs =>
    have last : (c :: cs).getLast? = some ((c :: cs).getLast (List.cons_ne_nil c cs)) :=
      List.getLast?_eq_some_getLast _
    have other : (c :: cs).getLast (List.cons_ne_nil c cs) ≠ '\n' :=
      ne_of_mem_of_not_mem (List.getLast_mem _) oneLine
    simp [List.getLast?_append, last, other]

/-- A line starts behind a span only if the span ends with a line feed of the literal. -/
theorem Spans.lineStart_stop (spans : occurrence.Spans literal text)
    (wide : occurrence.start < occurrence.stop literal) :
    LineStart text (occurrence.stop literal) ↔
      occurrence.tail = [] ∧ literal.getLast? = some '\n' := by
  have last : text[occurrence.stop literal - 1]? = (literal ++ occurrence.tail).getLast? := by
    rw [stop_eq] at wide ⊢
    rw [Nat.add_sub_assoc (by omega), ← List.getElem?_drop, spans.drop_start, ← List.append_assoc,
      List.getElem?_append_left (by omega), List.getLast?_eq_getElem?]
  have behind : occurrence.stop literal ≠ 0 := by omega
  simp only [LineStart, behind, last, false_or, getLast?_append_eq_feed spans.oneLine]

theorem Spans.stop_le (spans : occurrence.Spans literal text) :
    occurrence.stop literal ≤ text.length := by
  have lengths := congrArg List.length spans.drop_start
  have inside := spans.stands.place_le
  rw [stop_eq]
  simp only [List.length_drop, List.length_append] at lengths ⊢
  omega

theorem drop_succ {c : Char} (behind : text.drop place = c :: rest) :
    place + 1 ≤ text.length ∧ text.drop (place + 1) = rest := by
  constructor
  · have lengths := congrArg List.length behind
    simp only [List.length_drop, List.length_cons] at lengths
    omega
  · rw [← List.drop_drop, behind]
    rfl

theorem lineStart_succ {c : Char} (behind : text.drop place = c :: rest) :
    LineStart text (place + 1) ↔ c = '\n' := by
  have here : text[place]? = some c := by
    rw [← List.head?_drop, behind]
    rfl
  simp [LineStart, here]

theorem Spans.ext (spans : occurrence.Spans literal text) (spans' : other.Spans literal text)
    (same : occurrence.start = other.start) : occurrence = other := by
  have tails := spans.tail_eq
  rw [same, ← spans'.tail_eq] at tails
  cases occurrence
  cases other
  simp_all

end Occurrence

namespace Pattern

/-- The link of a match is its span without the marker and without a carriage return at the end. -/
theorem link_eq_span (pattern : Pattern) {text : List Char} {occurrence : Occurrence}
    (spans : occurrence.Spans pattern.literal text) :
    pattern.link occurrence = String.ofList
      (dropReturn ((occurrence.span pattern.literal text).drop pattern.marker.toList.length)) := by
  rw [link, spans.spelled, literal, List.append_assoc, List.drop_left]

end Pattern

end DependencyLinks
