import DependencyLinks.Proofs.Pattern.Spans

/-! Which matches the search selects. It takes the first place where the literal stands, goes on
behind the span of that match, and so leaves out nothing but what an earlier span covers. This holds
from any place on and decides the matches. -/

namespace DependencyLinks

namespace Occurrence

/-- Where a search resumes: behind the span, and at the next place if the span is empty. -/
def resume (literal : List Char) (occurrence : Occurrence) : Nat :=
  max (occurrence.start + 1) (occurrence.stop literal)

/-- Matches from a place on, leftmost first: their spans come in increasing order without reaching
into each other, and the literal stands nowhere else, unless strictly inside one of these spans. -/
structure Leftmost (literal text : List Char) (place : Nat) (found : List Occurrence) :
    Prop where
  spans : ∀ occurrence ∈ found, place ≤ occurrence.start ∧ occurrence.Spans literal text
  ordered : found.Pairwise fun earlier later =>
    earlier.start < later.start ∧ earlier.stop literal ≤ later.start
  complete : ∀ elsewhere, place ≤ elsewhere → Stands literal text elsewhere →
    (∀ occurrence ∈ found, occurrence.start ≠ elsewhere) →
    ∃ occurrence ∈ found, occurrence.start < elsewhere ∧ elsewhere < occurrence.stop literal

variable {literal text rest : List Char} {place elsewhere : Nat} {lineStart : Bool}
  {occurrence : Occurrence} {found others : List Occurrence}

theorem Leftmost.nothing : Leftmost literal text (text.length + 1) [] where
  spans := nofun
  ordered := .nil
  complete := by
    intro elsewhere behind stands missed
    exact absurd stands.place_le (Nat.not_le_of_lt behind)

/-- Where the literal does not stand, nothing starts. -/
theorem Leftmost.pass (later : Leftmost literal text (place + 1) found)
    (absent : ¬ Stands literal text place) : Leftmost literal text place found where
  spans := by
    intro occurrence member
    obtain ⟨behind, spans⟩ := later.spans occurrence member
    exact ⟨Nat.le_of_succ_le behind, spans⟩
  ordered := later.ordered
  complete := by
    intro elsewhere behind stands missed
    have different : place ≠ elsewhere := fun same => absent (same ▸ stands)
    exact later.complete elsewhere (Nat.lt_of_le_of_ne behind different) stands missed

/-- Where the literal stands, a match starts, and the search goes on where it resumes. -/
theorem Leftmost.cons (spans : occurrence.Spans literal text)
    (later : Leftmost literal text (occurrence.resume literal) found) :
    Leftmost literal text occurrence.start (occurrence :: found) where
  spans := by
    intro another member
    rcases List.mem_cons.mp member with rfl | member
    · exact ⟨Nat.le_refl _, spans⟩
    · obtain ⟨behind, spans⟩ := later.spans another member
      have next := (Nat.max_le.mp behind).1
      exact ⟨Nat.le_of_succ_le next, spans⟩
  ordered := by
    apply List.Pairwise.cons ?_ later.ordered
    intro another member
    exact Nat.max_le.mp (later.spans another member).1
  complete := by
    intro elsewhere behind stands missed
    rw [List.forall_mem_cons] at missed
    have next : occurrence.start < elsewhere := Nat.lt_of_le_of_ne behind missed.1
    by_cases covered : elsewhere < occurrence.stop literal
    · exact ⟨occurrence, List.mem_cons_self, next, covered⟩
    · have resumed : occurrence.resume literal ≤ elsewhere :=
        Nat.max_le.mpr ⟨next, Nat.le_of_not_lt covered⟩
      obtain ⟨another, member, around⟩ := later.complete elsewhere resumed stands missed.2
      exact ⟨another, List.mem_cons_of_mem _ member, around⟩

theorem stands_iff (behind : text.drop place = rest)
    (starts : lineStart = true ↔ LineStart text place) :
    (lineStart && literal.isPrefixOf rest) = true ↔ Stands literal text place := by
  rw [Bool.and_eq_true, starts, List.isPrefixOf_iff_prefix, Stands, behind]

/-- From any place a search finds the leftmost matches, if it is told whether a line starts
there. -/
theorem leftmost_search (inside : place ≤ text.length) (behind : text.drop place = rest)
    (starts : lineStart = true ↔ LineStart text place) :
    Leftmost literal text place (search literal place lineStart rest) := by
  fun_induction search literal place lineStart rest with
  | case1 place lineStart here =>
    have last : place = text.length := Nat.le_antisymm inside (List.drop_eq_nil_iff.mp behind)
    obtain ⟨started, empty⟩ : lineStart = true ∧ literal = [] := by simpa using here
    have ends : LineEnding [] := fun c rest empty => nomatch empty
    have spans : Spans literal text ⟨place, []⟩ :=
      spans_of_drop (starts.mp started) (by simp [behind, empty]) List.not_mem_nil ends
    have resumed : resume literal ⟨place, []⟩ = text.length + 1 := by
      simp [resume, stop, empty, last]
    exact .cons spans (resumed ▸ .nothing)
  | case2 place lineStart absent =>
    have last : place = text.length := Nat.le_antisymm inside (List.drop_eq_nil_iff.mp behind)
    have absent : ¬ Stands literal text place := by
      rw [← stands_iff behind starts]
      simpa using absent
    exact .pass (last ▸ .nothing) absent
  | case3 place lineStart c rest here tail width empty ih =>
    -- Only the empty literal in front of a line feed takes up no text, and a line starts behind it.
    have spans := ((stands_iff behind starts).mp here).spans
    rw [← List.drop_drop, behind] at spans
    have noText : literal = [] ∧ tail = [] := by
      simpa [width, List.length_eq_zero_iff] using empty
    have feed : c = '\n' := by
      have none := noText.2
      simpa [tail, noText.1, lineEnd, List.takeWhile_cons] using none
    have resumed : resume literal ⟨place, tail⟩ = place + 1 := by
      simp [resume, stop, noText]
    obtain ⟨inside, behind'⟩ := drop_succ behind
    refine .cons spans (resumed ▸ ih inside behind' ?_)
    simpa using (lineStart_succ behind).mpr feed
  | case4 place lineStart c rest here tail width wide ih =>
    have spans := ((stands_iff behind starts).mp here).spans
    rw [← List.drop_drop, behind] at spans
    have stopped : stop literal ⟨place, tail⟩ = place + width := Nat.add_assoc ..
    have forward : place < place + width :=
      Nat.lt_add_of_pos_right (Nat.pos_of_ne_zero wide)
    have resumed : resume literal ⟨place, tail⟩ = place + width := by
      rw [resume, stopped, Nat.max_eq_right forward]
    have behind' : text.drop (place + width) = rest.drop (width - 1) := by
      rw [← List.drop_drop, behind, List.drop_cons (by omega)]
    -- The search is told of a line start if the span ends with the last line feed of the literal.
    have feed := spans.lineStart_stop (stopped.symm ▸ forward)
    rw [stopped] at feed
    refine .cons spans (resumed ▸ ih (stopped ▸ spans.stop_le) behind' ?_)
    rw [feed, Bool.and_eq_true, List.isEmpty_iff, beq_iff_eq]
  | case5 place lineStart c rest absent ih =>
    have feed : (c == '\n') = true ↔ LineStart text (place + 1) := by
      rw [lineStart_succ behind, beq_iff_eq]
    obtain ⟨inside, behind'⟩ := drop_succ behind
    exact .pass (ih inside behind' feed) (mt (stands_iff behind starts).mpr absent)

theorem Leftmost.tail (leftmost : Leftmost literal text place (occurrence :: found)) :
    Leftmost literal text (occurrence.resume literal) found where
  spans := by
    intro another member
    have apart := (List.pairwise_cons.mp leftmost.ordered).1 another member
    have spans := (leftmost.spans another (List.mem_cons_of_mem _ member)).2
    exact ⟨Nat.max_le.mpr apart, spans⟩
  ordered := (List.pairwise_cons.mp leftmost.ordered).2
  complete := by
    intro elsewhere behind stands missed
    have first := (leftmost.spans occurrence List.mem_cons_self).1
    obtain ⟨next, stopped⟩ := Nat.max_le.mp behind
    have missed : ∀ another ∈ occurrence :: found, another.start ≠ elsewhere :=
      List.forall_mem_cons.mpr ⟨Nat.ne_of_lt next, missed⟩
    obtain ⟨another, member, before, inside⟩ :=
      leftmost.complete elsewhere (by omega) stands missed
    rcases List.mem_cons.mp member with rfl | member
    · exact absurd inside (Nat.not_lt_of_le stopped)
    · exact ⟨another, member, before, inside⟩

/-- No match is left out in front of the first one. -/
theorem Leftmost.start_le (leftmost : Leftmost literal text place (occurrence :: found))
    (behind : place ≤ elsewhere) (stands : Stands literal text elsewhere) :
    occurrence.start ≤ elsewhere := by
  apply Nat.le_of_not_lt
  intro before
  have later : ∀ another ∈ occurrence :: found, elsewhere < another.start := by
    intro another member
    rcases List.mem_cons.mp member with rfl | member
    · exact before
    · have apart := (List.pairwise_cons.mp leftmost.ordered).1 another member
      exact Nat.lt_trans before apart.1
  have missed : ∀ another ∈ occurrence :: found, another.start ≠ elsewhere := by
    intro another member
    exact Nat.ne_of_gt (later another member)
  obtain ⟨another, member, earlier, -⟩ := leftmost.complete elsewhere behind stands missed
  exact absurd earlier (Nat.lt_asymm (later another member))

theorem Leftmost.not_stands (leftmost : Leftmost literal text place [])
    (behind : place ≤ elsewhere) : ¬ Stands literal text elsewhere := by
  intro stands
  obtain ⟨occurrence, member, -⟩ := leftmost.complete elsewhere behind stands nofun
  cases member

theorem Leftmost.unique (leftmost : Leftmost literal text place found)
    (leftmost' : Leftmost literal text place others) : found = others := by
  induction found generalizing place others with
  | nil =>
    cases others with
    | nil => rfl
    | cons other others =>
      obtain ⟨behind, spans⟩ := leftmost'.spans other List.mem_cons_self
      exact absurd spans.stands (leftmost.not_stands behind)
  | cons occurrence found ih =>
    obtain ⟨behind, spans⟩ := leftmost.spans occurrence List.mem_cons_self
    cases others with
    | nil => exact absurd spans.stands (leftmost'.not_stands behind)
    | cons other others =>
      obtain ⟨behind', spans'⟩ := leftmost'.spans other List.mem_cons_self
      have before := leftmost.start_le behind' spans'.stands
      have before' := leftmost'.start_le behind spans.stands
      have same : occurrence.start = other.start := Nat.le_antisymm before before'
      obtain rfl := spans.ext spans' same
      rw [ih leftmost.tail leftmost'.tail]

/-- At each place at most one match starts. -/
theorem Leftmost.length_le (leftmost : Leftmost literal text place found)
    (inside : place ≤ text.length + 1) : place + found.length ≤ text.length + 1 := by
  induction found generalizing place with
  | nil => exact inside
  | cons occurrence found ih =>
    obtain ⟨behind, spans⟩ := leftmost.spans occurrence List.mem_cons_self
    have next : occurrence.start + 1 ≤ occurrence.resume literal := Nat.le_max_left ..
    have resumed : occurrence.resume literal ≤ text.length + 1 :=
      Nat.max_le.mpr ⟨Nat.succ_le_succ spans.stands.place_le, Nat.le_succ_of_le spans.stop_le⟩
    have rest := ih leftmost.tail resumed
    rw [List.length_cons]
    omega

end Occurrence

namespace Pattern

open Occurrence

theorem leftmost_occurrences (pattern : Pattern) (body : String) :
    Leftmost pattern.literal body.toList 0 (pattern.occurrences body) :=
  leftmost_search (Nat.zero_le _) rfl (by simp [LineStart])

/-- The matches in a body are the leftmost ones, and only these are leftmost. They are at most as
many as the places in the body, and each yields its span without the marker and without a carriage
return at the end. Marker and link start may hold line feeds and may be empty. -/
theorem leftmost_iff_eq_occurrences {marker linkStart : String} {pattern : Pattern}
    (made : make marker linkStart = .ok pattern) (body : String) :
    let literal := marker.toList ++ linkStart.toList
    let text := body.toList
    (∀ found, Leftmost literal text 0 found ↔ found = pattern.occurrences body) ∧
      (pattern.occurrences body).length ≤ text.length + 1 ∧
      pattern.linksIn body = (pattern.occurrences body).map fun occurrence =>
        String.ofList (dropReturn
          ((occurrence.span literal text).drop marker.toList.length)) := by
  intro literal text
  obtain ⟨rfl, rfl⟩ := parts_of_make made
  have leftmost : Leftmost literal text 0 (pattern.occurrences body) :=
    pattern.leftmost_occurrences body
  refine ⟨?_, ?_, ?_⟩
  · intro found
    constructor
    · intro other
      exact other.unique leftmost
    · rintro rfl
      exact leftmost
  · simpa using leftmost.length_le (Nat.zero_le _)
  · apply List.map_congr_left
    intro occurrence member
    exact link_eq_span pattern (leftmost.spans occurrence member).2

/-- The literal also stands at place 2, inside the first span, and no line starts at place 3, where
the search resumes. -/
theorem leftmost_iff_eq_occurrences_overlap :
    ∃ pattern, make "a\n" "" = .ok pattern ∧
      Leftmost "a\n".toList "a\na\na\nb\r\na\n".toList 0
        [⟨0, ['a']⟩, ⟨4, ['b', '\r']⟩, ⟨9, []⟩] ∧
      pattern.linksIn "a\na\na\nb\r\na\n" = ["a", "b", ""] := by
  have made : make "a\n" "" = .ok ⟨"a\n", "", by decide⟩ := rfl
  obtain ⟨selected, -, links⟩ := leftmost_iff_eq_occurrences made "a\na\na\nb\r\na\n"
  refine ⟨_, made, (selected _).mpr ?_, links.trans ?_⟩
  · cbv
  · cbv

end Pattern

end DependencyLinks
