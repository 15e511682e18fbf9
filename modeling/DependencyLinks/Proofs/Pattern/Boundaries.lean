import DependencyLinks.Proofs.Pattern.Lines

/-! What separates one line from the next. With one-line literals a line feed is as good a boundary
as the end of a body, and a line feed with a carriage return in front is as good as one without. -/

namespace DependencyLinks

/-- What ends a line that is not the last one. -/
inductive LineBreak where
  | feed
  | returnFeed
deriving DecidableEq, Repr

def LineBreak.text : LineBreak → String
  | feed => "\n"
  | returnFeed => "\r\n"

/-- A text of the given lines. The break behind a line is chosen by the line's position. -/
def joinLines (breaks : Nat → LineBreak) : List String → String
  | [] => ""
  | [line] => line
  | line :: next :: lines =>
    line ++ (breaks 0).text ++ joinLines (fun position => breaks (position + 1)) (next :: lines)

/-- A line without what ends it. Carriage returns may stand further in. -/
structure PlainLine (line : String) : Prop where
  whole : '\n' ∉ line.toList
  unended : line.toList.getLast? ≠ some '\r'

namespace Pattern

variable {pattern : Pattern} {line : String}

theorem not_mem_literal {c : Char} (inMarker : c ∉ pattern.marker.toList)
    (inLink : c ∉ pattern.linkStart.toList) : c ∉ pattern.literal := by
  intro member
  rcases List.mem_append.mp member with marker | link
  · exact inMarker marker
  · exact inLink link

theorem dropReturn_append_return (cs : List Char) : dropReturn (cs ++ ['\r']) = cs := by
  simp [dropReturn]

theorem dropReturn_drop {cs : List Char} (unended : cs.getLast? ≠ some '\r') (n : Nat) :
    dropReturn (cs.drop n) = cs.drop n := by
  have kept : (cs.drop n).getLast? ≠ some '\r' := by
    rw [List.getLast?_drop]
    split
    · nofun
    · exact unended
  rw [dropReturn, if_neg kept]

section OneLine

variable (oneLine : '\n' ∉ pattern.literal)

include oneLine

theorem linksIn_eq_map_filter (body : String) :
    pattern.linksIn body =
      ((body.toList.splitOn '\n').filter pattern.literal.isPrefixOf).map fun line =>
        String.ofList (dropReturn (line.drop pattern.marker.toList.length)) := by
  rw [linksIn, occurrences, Occurrence.search_eq_inLines oneLine, map_link_inLines]

/-- A line feed cuts a body into two that do not see each other. -/
theorem linksIn_append_feed (front behind : String) :
    pattern.linksIn (front ++ "\n" ++ behind) =
      pattern.linksIn front ++ pattern.linksIn behind := by
  have cut : (front ++ "\n" ++ behind).toList = front.toList ++ '\n' :: behind.toList := by
    simp
  simp only [linksIn_eq_map_filter oneLine, cut, List.splitOn_append_cons_self,
    List.filter_append, List.map_append]

theorem linksIn_line (whole : '\n' ∉ line.toList) :
    pattern.linksIn line =
      if pattern.literal.isPrefixOf line.toList then
        [String.ofList (dropReturn (line.toList.drop pattern.marker.toList.length))]
      else [] := by
  rw [linksIn_eq_map_filter oneLine, List.splitOn_eq_singleton whole]
  by_cases found : pattern.literal.isPrefixOf line.toList = true
  · simp only [List.filter_cons_of_pos found, List.filter_nil, List.map_singleton, if_pos found]
  · simp only [List.filter_cons_of_neg found, List.filter_nil, List.map_nil, if_neg found]

theorem linksIn_plainLine (plain : PlainLine line) :
    pattern.linksIn line =
      if pattern.literal.isPrefixOf line.toList then
        [String.ofList (line.toList.drop pattern.marker.toList.length)]
      else [] := by
  rw [linksIn_line oneLine plain.whole, dropReturn_drop plain.unended]

theorem linksInAll_plainLines {lines : List String} (plain : ∀ line ∈ lines, PlainLine line) :
    pattern.linksInAll lines =
      (lines.filter fun line => pattern.literal.isPrefixOf line.toList).map fun line =>
        String.ofList (line.toList.drop pattern.marker.toList.length) := by
  induction lines with
  | nil => rfl
  | cons line lines ih =>
    obtain ⟨first, others⟩ := List.forall_mem_cons.mp plain
    rw [linksInAll, List.flatMap_cons, linksIn_plainLine oneLine first, ← linksInAll, ih others,
      List.filter_cons]
    split <;> rfl

end OneLine

/-- Joining bodies by line feeds changes none of their links. -/
theorem linksIn_intercalate (pattern : Pattern) (markerOneLine : '\n' ∉ pattern.marker.toList)
    (linkOneLine : '\n' ∉ pattern.linkStart.toList) {bodies : List String} (some : bodies ≠ []) :
    pattern.linksIn ("\n".intercalate bodies) = pattern.linksInAll bodies := by
  have oneLine := not_mem_literal markerOneLine linkOneLine
  induction bodies with
  | nil => contradiction
  | cons body bodies ih =>
    rw [linksInAll, List.flatMap_cons]
    by_cases last : bodies = []
    · simp [last]
    · rw [String.intercalate_cons_of_ne_nil last, linksIn_append_feed oneLine, ih last, linksInAll]

/-- The blank pattern declares every line, the empty ones at either end of a body included. -/
theorem linksIn_intercalate_blank :
    ∃ pattern, make "" "" = .ok pattern ∧
      '\n' ∉ pattern.marker.toList ∧ '\n' ∉ pattern.linkStart.toList ∧
      pattern.linksIn ("\n".intercalate ["", "a\r\n", "b\r"]) = ["", "a", "", "b"] := by
  have made : make "" "" = .ok ⟨"", "", by decide⟩ := rfl
  have plain : '\n' ∉ "".toList := by decide
  refine ⟨_, made, plain, plain, ?_⟩
  rw [linksIn_intercalate ⟨"", "", _⟩ plain plain (List.cons_ne_nil _ _)]
  cbv

section NoReturn

variable (oneLine : '\n' ∉ pattern.literal) (noReturn : '\r' ∉ pattern.literal)

include oneLine noReturn

/-- A carriage return behind a line neither makes a declaration nor belongs to one. -/
theorem linksIn_append_return (plain : PlainLine line) :
    pattern.linksIn (line ++ "\r") = pattern.linksIn line := by
  have returned : (line ++ "\r").toList = line.toList ++ ['\r'] := by simp
  have whole : '\n' ∉ (line ++ "\r").toList := by simpa [returned] using plain.whole
  have starts : pattern.literal.isPrefixOf (line.toList ++ ['\r']) =
      pattern.literal.isPrefixOf line.toList := by
    -- The literal does not reach the carriage return, for it holds none.
    have different : pattern.literal ≠ line.toList ++ ['\r'] := by
      intro same
      exact noReturn (same ▸ List.mem_concat_self)
    rw [Bool.eq_iff_iff, List.isPrefixOf_iff_prefix, List.isPrefixOf_iff_prefix,
      List.prefix_concat_iff, or_iff_right different]
  rw [linksIn_plainLine oneLine plain, linksIn_line oneLine whole, returned, starts]
  split
  next found =>
    have enough : pattern.marker.toList.length ≤ line.toList.length := by
      have lengths := (List.isPrefixOf_iff_prefix.mp found).length_le
      rw [literal, List.length_append] at lengths
      omega
    rw [List.drop_append_of_le_length enough, dropReturn_append_return]
  next => rfl

theorem linksIn_append_text (plain : PlainLine line) (ending : LineBreak) (behind : String) :
    pattern.linksIn (line ++ ending.text ++ behind) =
      pattern.linksIn line ++ pattern.linksIn behind := by
  cases ending with
  | feed => exact linksIn_append_feed oneLine line behind
  | returnFeed =>
    have split : line ++ "\r\n" ++ behind = line ++ "\r" ++ "\n" ++ behind := by
      simp [String.append_assoc]
    rw [LineBreak.text, split, linksIn_append_feed oneLine,
      linksIn_append_return oneLine noReturn plain]

/-- Whatever breaks stand between lines, each line is read as if it stood alone. -/
theorem linksIn_joinLines (breaks : Nat → LineBreak) {lines : List String}
    (plain : ∀ line ∈ lines, PlainLine line) (some : lines ≠ []) :
    pattern.linksIn (joinLines breaks lines) = pattern.linksInAll lines := by
  fun_induction joinLines breaks lines with
  | case1 => contradiction
  | case2 breaks line => simp [linksInAll]
  | case3 breaks line next lines ih =>
    obtain ⟨first, others⟩ := List.forall_mem_cons.mp plain
    rw [linksIn_append_text oneLine noReturn first, ih others (List.cons_ne_nil _ _)]
    rfl

end NoReturn

/-- A text has the same links whichever breaks stand between its lines: those of the lines that
start with the marker and the start of a link, each without the marker and otherwise as it stands,
carriage returns included. -/
theorem linksIn_joinLines_independent {marker linkStart : String} {pattern : Pattern}
    (made : make marker linkStart = .ok pattern)
    (markerPlain : '\r' ∉ marker.toList ∧ '\n' ∉ marker.toList)
    (linkPlain : '\r' ∉ linkStart.toList ∧ '\n' ∉ linkStart.toList) {lines : List String}
    (plain : ∀ line ∈ lines, PlainLine line) (breaks : Nat → LineBreak) :
    (∀ others, pattern.linksIn (joinLines others lines) =
        pattern.linksIn (joinLines breaks lines)) ∧
      (lines ≠ [] → pattern.linksIn (joinLines breaks lines) =
        (lines.filter fun line =>
          (marker.toList ++ linkStart.toList).isPrefixOf line.toList).map fun line =>
            String.ofList (line.toList.drop marker.toList.length)) := by
  obtain ⟨rfl, rfl⟩ := parts_of_make made
  have oneLine := not_mem_literal markerPlain.2 linkPlain.2
  have noReturn := not_mem_literal markerPlain.1 linkPlain.1
  constructor
  · intro others
    by_cases none : lines = []
    · subst none
      rfl
    · rw [linksIn_joinLines oneLine noReturn others plain none,
        linksIn_joinLines oneLine noReturn breaks plain none]
  · intro some
    rw [linksIn_joinLines oneLine noReturn breaks plain some, linksInAll_plainLines oneLine plain]
    rfl

/-- A carriage return inside a line is kept and starts no line, and the marker without the start
of a link behind it declares nothing in front of either break. -/
theorem linksIn_joinLines_independent_returns :
    ∃ pattern, make "on " "h" = .ok pattern ∧
      (∀ line ∈ ["on hx\ry", "on ", "a\ron h", "on h"], PlainLine line) ∧
      pattern.linksIn "on hx\ry\non \na\ron h\non h" = ["hx\ry", "h"] ∧
      pattern.linksIn "on hx\ry\r\non \r\na\ron h\non h" = ["hx\ry", "h"] := by
  have made : make "on " "h" = .ok ⟨"on ", "h", by decide⟩ := rfl
  have plain : ∀ line ∈ ["on hx\ry", "on ", "a\ron h", "on h"], PlainLine line := by
    intro line member
    constructor <;> revert line <;> decide
  have feeds : joinLines (fun _ => .feed) ["on hx\ry", "on ", "a\ron h", "on h"] =
      "on hx\ry\non \na\ron h\non h" := by
    cbv
  have mixed : joinLines (fun position => if position = 2 then .feed else .returnFeed)
      ["on hx\ry", "on ", "a\ron h", "on h"] = "on hx\ry\r\non \r\na\ron h\non h" := by
    cbv
  obtain ⟨same, links⟩ := linksIn_joinLines_independent made (by decide) (by decide) plain
    fun _ => .feed
  refine ⟨_, made, plain, ?_, ?_⟩
  · rw [← feeds, links (List.cons_ne_nil _ _)]
    cbv
  · rw [← mixed, same, links (List.cons_ne_nil _ _)]
    cbv

end Pattern

end DependencyLinks
