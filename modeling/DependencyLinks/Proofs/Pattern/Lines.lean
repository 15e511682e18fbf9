import DependencyLinks.Pattern

/-! Literals without a line feed. The search resumes in the middle of a line, behind a match, or at
a line start; from either place it finds what a look at each line by itself finds. -/

namespace DependencyLinks

namespace Text

/-- A text is its last line, or a line and the text behind the line feed. -/
theorem induction_lines {motive : List Char → Prop} (last : ∀ line, '\n' ∉ line → motive line)
    (more : ∀ line rest, '\n' ∉ line → motive rest → motive (line ++ '\n' :: rest))
    (cs : List Char) : motive cs := by
  by_cases feed : '\n' ∈ cs
  · obtain ⟨line, rest, split, whole⟩ := List.eq_append_cons_of_mem feed
    have shorter : rest.length < cs.length := by
      simp only [split, List.length_append, List.length_cons]
      omega
    rw [split]
    exact more line rest whole (induction_lines last more rest)
  · exact last cs feed
termination_by cs.length

end Text

namespace Occurrence

/-- The matches in lines of which the first begins at `offset` and each begins behind the line feed
of the one before. A line matches as a whole or not at all. -/
def inLines (literal : List Char) (offset : Nat) : List (List Char) → List Occurrence
  | [] => []
  | line :: lines =>
    (if literal.isPrefixOf line then [⟨offset, line.drop literal.length⟩] else []) ++
      inLines literal (offset + line.length + 1) lines

/-- What the search finds behind a line that ends at `offset`, at the line feed or at the end. -/
def searchBehind (literal : List Char) (offset : Nat) : List Char → List Occurrence
  | [] => []
  | _ :: rest => search literal (offset + 1) true rest

/-- The end of a line: the end of the text, or a line feed and the text behind it. -/
def LineEnding (ending : List Char) : Prop :=
  ∀ c rest, ending = c :: rest → c = '\n'

theorem lineEnd_append {line ending : List Char} (whole : '\n' ∉ line) (ends : LineEnding ending) :
    lineEnd (line ++ ending) = line := by
  have inside : ∀ c ∈ line, (c != '\n') = true := by
    intro c member
    simpa using ne_of_mem_of_not_mem member whole
  rw [lineEnd, List.takeWhile_append_of_pos inside]
  cases ending with
  | nil => simp
  | cons c rest => simp [ends c rest rfl]

/-- Between line starts the search passes over the text. -/
theorem search_midLine {line ending : List Char} (literal : List Char) (offset : Nat)
    (whole : '\n' ∉ line) (ends : LineEnding ending) :
    search literal offset false (line ++ ending) =
      searchBehind literal (offset + line.length) ending := by
  induction line generalizing offset with
  | nil =>
    cases ending with
    | nil => simp [search, searchBehind]
    | cons c rest =>
      cases ends c rest rfl
      simp [search, searchBehind]
  | cons c line ih =>
    have inner : (c == '\n') = false := by
      simpa using ne_of_mem_of_not_mem (List.mem_cons_self ..) whole
    have whole : '\n' ∉ line := fun member => whole (List.mem_cons_of_mem c member)
    rw [List.cons_append, search]
    simp only [Bool.false_and, Bool.false_eq_true, ↓reduceIte, inner, ih _ whole]
    simp [Nat.add_comm, Nat.add_left_comm]

theorem isPrefixOf_append_ending {literal ending : List Char} (line : List Char)
    (oneLine : '\n' ∉ literal) (ends : LineEnding ending) :
    literal.isPrefixOf (line ++ ending) = literal.isPrefixOf line := by
  induction literal generalizing line with
  | nil => simp
  | cons first literal ih =>
    have different : first ≠ '\n' := ne_of_mem_of_not_mem (List.mem_cons_self ..) oneLine
    have oneLine : '\n' ∉ literal := fun member => oneLine (List.mem_cons_of_mem first member)
    cases line with
    | nil =>
      cases ending with
      | nil => rfl
      | cons c rest =>
        cases ends c rest rfl
        simp [List.isPrefixOf, different]
    | cons c line => simp [List.isPrefixOf, ih line oneLine]

/-- From a line start the search takes the line if it matches, and goes on behind the line. -/
theorem search_line {literal line ending : List Char} (offset : Nat) (oneLine : '\n' ∉ literal)
    (whole : '\n' ∉ line) (ends : LineEnding ending) :
    search literal offset true (line ++ ending) =
      (if literal.isPrefixOf line then [⟨offset, line.drop literal.length⟩] else []) ++
        searchBehind literal (offset + line.length) ending := by
  have starts := isPrefixOf_append_ending line oneLine ends
  cases line with
  | nil =>
    cases ending with
    | nil => cases literal <;> simp [search, searchBehind]
    | cons c rest =>
      cases ends c rest rfl
      -- Only an empty literal matches an empty line, and its match takes up no text.
      cases literal with
      | nil => simp [search, searchBehind, lineEnd]
      | cons first literal =>
        have different : first ≠ '\n' := ne_of_mem_of_not_mem (List.mem_cons_self ..) oneLine
        simp [search, searchBehind, List.isPrefixOf, different]
  | cons c line =>
    rw [List.cons_append, search]
    rw [List.cons_append] at starts
    simp only [starts, Bool.true_and]
    by_cases found : literal.isPrefixOf (c :: line) = true
    · obtain ⟨tail, split⟩ := List.isPrefixOf_iff_prefix.mp found
      have inTail : '\n' ∉ tail := by
        intro member
        exact whole (split ▸ List.mem_append_right literal member)
      have noFeed : literal.getLast? ≠ some '\n' :=
        fun last => oneLine (List.mem_of_getLast? last)
      have width : literal.length + tail.length = line.length + 1 := by
        simpa using congrArg List.length split
      have rest : (line ++ ending).drop (line.length + 1 - 1) = ending := by
        simp
      have behind : (c :: (line ++ ending)).drop literal.length = tail ++ ending := by
        rw [← List.cons_append, ← split]
        simp
      have inner : (tail.isEmpty && literal.getLast? == some '\n') = false := by
        simp [noFeed]
      have blank : '\n' ∉ ([] : List Char) := List.not_mem_nil
      have resumed := search_midLine literal (offset + (line.length + 1)) blank ends
      have taken : (c :: line).drop literal.length = tail := by
        simp [← split]
      simp only [found, ↓reduceIte, behind, lineEnd_append inTail ends, rest, inner, width, taken,
        Nat.add_one_ne_zero]
      simpa using resumed
    · have inner : (c == '\n') = false := by
        simpa using ne_of_mem_of_not_mem (List.mem_cons_self ..) whole
      have whole : '\n' ∉ line := fun member => whole (List.mem_cons_of_mem c member)
      simp only [found, Bool.false_eq_true, ↓reduceIte, inner, search_midLine literal _ whole ends]
      simp [Nat.add_comm, Nat.add_left_comm]

/-- A search that starts at a line start looks at every line once, in order. -/
theorem search_eq_inLines {literal : List Char} (oneLine : '\n' ∉ literal) (offset : Nat)
    (cs : List Char) :
    search literal offset true cs = inLines literal offset (cs.splitOn '\n') := by
  induction cs using Text.induction_lines generalizing offset with
  | last line whole =>
    have ends : LineEnding [] := fun c rest empty => nomatch empty
    have found := search_line offset oneLine whole ends
    rw [List.append_nil] at found
    rw [found, List.splitOn_eq_singleton whole]
    rfl
  | more line rest whole ih =>
    have ends : LineEnding ('\n' :: rest) := by
      intro c later same
      exact (List.cons.inj same).1.symm
    rw [search_line offset oneLine whole ends, List.splitOn_append_cons_self_of_not_mem whole]
    simp only [inLines, searchBehind, ih]

end Occurrence

namespace Pattern

theorem parts_of_make {marker linkStart : String} {pattern : Pattern}
    (made : make marker linkStart = .ok pattern) :
    pattern.marker = marker ∧ pattern.linkStart = linkStart := by
  unfold make at made
  split at made
  · cases made
    exact ⟨rfl, rfl⟩
  · cases made

/-- What is left of a matching line without the marker is the start of the link and the tail. -/
theorem link_tail (pattern : Pattern) {line : List Char}
    (found : pattern.literal.isPrefixOf line = true) (start : Nat) :
    pattern.link ⟨start, line.drop pattern.literal.length⟩ =
      String.ofList (dropReturn (line.drop pattern.marker.toList.length)) := by
  obtain ⟨tail, rfl⟩ := List.isPrefixOf_iff_prefix.mp found
  simp [link, literal]

theorem map_link_inLines (pattern : Pattern) (offset : Nat) (lines : List (List Char)) :
    (Occurrence.inLines pattern.literal offset lines).map pattern.link =
      (lines.filter pattern.literal.isPrefixOf).map fun line =>
        String.ofList (dropReturn (line.drop pattern.marker.toList.length)) := by
  induction lines generalizing offset with
  | nil => rfl
  | cons line lines ih =>
    by_cases found : pattern.literal.isPrefixOf line = true
    · simp only [Occurrence.inLines, found, ↓reduceIte, List.singleton_append, List.map_cons,
        link_tail pattern found, ih, List.filter_cons_of_pos]
    · simp only [Occurrence.inLines, found, Bool.false_eq_true, ↓reduceIte, List.nil_append, ih,
        List.filter_cons_of_neg, not_false_eq_true]

/-- The lines of a body are those that line feeds cut it into, the last one included. A line that
starts with the marker and the start of a link declares what stands behind the marker, without a
carriage return at the end; no other line declares anything. Matches come in the order of their
lines, one for each such line, at the place where the line begins. -/
theorem linksIn_eq_lines {marker linkStart : String} {pattern : Pattern}
    (made : make marker linkStart = .ok pattern) (markerOneLine : '\n' ∉ marker.toList)
    (linkOneLine : '\n' ∉ linkStart.toList) (body : String) :
    let literal := marker.toList ++ linkStart.toList
    let lines := body.toList.splitOn '\n'
    pattern.occurrences body = Occurrence.inLines literal 0 lines ∧
      pattern.linksIn body =
        (lines.filter literal.isPrefixOf).map fun line =>
          String.ofList (dropReturn (line.drop marker.toList.length)) := by
  intro literal lines
  obtain ⟨rfl, rfl⟩ := parts_of_make made
  have oneLine : '\n' ∉ literal := by
    intro member
    rcases List.mem_append.mp member with inMarker | inLink
    · exact markerOneLine inMarker
    · exact linkOneLine inLink
  have found : pattern.occurrences body = Occurrence.inLines literal 0 lines :=
    Occurrence.search_eq_inLines oneLine 0 body.toList
  refine ⟨found, ?_⟩
  rw [linksIn, found]
  exact map_link_inLines pattern 0 lines

/-- The marker's own carriage return stays out of the link, a second one is dropped from its end,
and a line that only holds the literal further in declares nothing. -/
theorem linksIn_eq_lines_returns :
    ∃ pattern, make "d\r" "" = .ok pattern ∧ '\n' ∉ "d\r".toList ∧ '\n' ∉ "".toList ∧
      pattern.linksIn "d\rx\r\r\n d\r\n\nd\r\r" = ["x\r", ""] := by
  have made : make "d\r" "" = .ok ⟨"d\r", "", by decide⟩ := rfl
  have markerOneLine : '\n' ∉ "d\r".toList := by decide
  have linkOneLine : '\n' ∉ "".toList := by decide
  refine ⟨_, made, markerOneLine, linkOneLine, ?_⟩
  rw [(linksIn_eq_lines made markerOneLine linkOneLine _).2]
  decide +kernel

end Pattern

end DependencyLinks
