import DependencyLinks.Proofs.Pattern.Leftmost
import DependencyLinks.Proofs.Text.Utf8
import DependencyLinks.Proofs.Writer.Taken

/-! The printed list read back. A link holds no line feed, so the line feeds of an output are those
that end its lines, and cutting it there recovers every link. -/

namespace DependencyLinks

/-- The lines of an output, each with the line feed that ends it. Bytes behind the last line feed
are a line without one. -/
def outputLines : RawText → List RawText
  | [] => []
  | byte :: rest =>
    if byte == 0x0A then [byte] :: outputLines rest
    else match outputLines rest with
      | [] => [[byte]]
      | line :: lines => (byte :: line) :: lines

theorem outputLines_append_feed {line : RawText} (whole : 0x0A ∉ line) (rest : RawText) :
    outputLines (line ++ 0x0A :: rest) = (line ++ [0x0A]) :: outputLines rest := by
  induction line with
  | nil => simp [outputLines]
  | cons byte line ih =>
    rw [List.mem_cons, not_or] at whole
    have inner : (byte == 0x0A) = false := by simpa using Ne.symm whole.1
    simp only [List.cons_append, outputLines, inner, Bool.false_eq_true, ↓reduceIte, ih whole.2]

theorem feed_not_mem_ofString {s : String} (whole : '\n' ∉ s.toList) :
    0x0A ∉ RawText.ofString s := by
  refine Utf8.not_mem_encode (by decide) fun c member code => ?_
  have feed : c = '\n' := Char.toNat_inj.mp code
  exact whole (feed ▸ member)

/-- Lines without a line feed are recovered from the text that they are written as. -/
theorem outputLines_linesText {lines : List String} (whole : ∀ line ∈ lines, '\n' ∉ line.toList) :
    outputLines (RawText.ofString (linesText lines)) =
      lines.map fun line => RawText.ofString line ++ [0x0A] := by
  induction lines with
  | nil => rfl
  | cons line lines ih =>
    obtain ⟨first, others⟩ := List.forall_mem_cons.mp whole
    have feed : RawText.ofString "\n" = [0x0A] := by decide
    rw [Writer.ofString_linesText_cons, feed, List.singleton_append,
      outputLines_append_feed (feed_not_mem_ofString first), ih others, List.map_cons]

namespace Pattern

variable {pattern : Pattern} {cs : List Char} {link : String}

theorem mem_of_mem_dropReturn {c : Char} (member : c ∈ dropReturn cs) : c ∈ cs := by
  unfold dropReturn at member
  split at member
  · exact (List.dropLast_sublist cs).subset member
  · exact member

/-- A front that does not itself end with a carriage return is kept whole. -/
theorem prefix_dropReturn_append {front : List Char} (unended : front.getLast? ≠ some '\r')
    (tail : List Char) : front <+: dropReturn (front ++ tail) := by
  unfold dropReturn
  split
  next returned =>
    have filled : tail ≠ [] := by
      rintro rfl
      exact unended (by simpa using returned)
    rw [List.dropLast_append_of_ne_nil filled]
    exact List.prefix_append ..
  next => exact List.prefix_append ..

theorem exists_of_mem_linksInAll {bodies : List String}
    (member : link ∈ pattern.linksInAll bodies) :
    ∃ occurrence, '\n' ∉ occurrence.tail ∧ pattern.link occurrence = link := by
  obtain ⟨body, -, inBody⟩ := List.mem_flatMap.mp member
  obtain ⟨occurrence, found, same⟩ := List.mem_map.mp inBody
  have spans := ((pattern.leftmost_occurrences body).spans occurrence found).2
  exact ⟨occurrence, spans.oneLine, same⟩

theorem feed_not_mem_of_mem_linksInAll {bodies : List String}
    (oneLine : '\n' ∉ pattern.linkStart.toList) (member : link ∈ pattern.linksInAll bodies) :
    '\n' ∉ link.toList := by
  obtain ⟨occurrence, inTail, rfl⟩ := exists_of_mem_linksInAll member
  intro feed
  rw [Pattern.link, String.toList_ofList] at feed
  rcases List.mem_append.mp (mem_of_mem_dropReturn feed) with inStart | behind
  · exact oneLine inStart
  · exact inTail behind

theorem exists_linkStart_append_of_mem_linksInAll {bodies : List String}
    (unended : pattern.linkStart.toList.getLast? ≠ some '\r')
    (member : link ∈ pattern.linksInAll bodies) : ∃ rest, pattern.linkStart ++ rest = link := by
  obtain ⟨occurrence, -, rfl⟩ := exists_of_mem_linksInAll member
  obtain ⟨rest, split⟩ := prefix_dropReturn_append unended occurrence.tail
  refine ⟨String.ofList rest, String.toList_inj.mp ?_⟩
  rw [Pattern.link, String.toList_append, String.toList_ofList, String.toList_ofList, split]

/-- Printed to a device that takes everything, the links of any bodies can be read back: each
output line is the bytes of one link and a line feed, in order, the empty and the repeated ones
included, even if the marker holds line feeds. Unless the start of a link ends with a carriage
return, every output line starts with it. -/
theorem outputLines_print_linksInAll (pattern : Pattern)
    (oneLine : '\n' ∉ pattern.linkStart.toList) (bodies : List String) {device : Device}
    (takesAll : device.TakesAll) :
    let links := pattern.linksInAll bodies
    let printed := Writer.print { device } links
    let lines := outputLines printed.2.taken
    printed.1 = .ok () ∧
      lines = links.map (fun link => RawText.ofString link ++ [0x0A]) ∧
      lines.map (fun line => RawText.text? line.dropLast) = links.map some ∧
      (pattern.linkStart.toList.getLast? ≠ some '\r' →
        ∀ line ∈ lines, RawText.ofString pattern.linkStart <+: line) := by
  intro links printed lines
  obtain ⟨done, taken, -⟩ := Writer.print_of_takesAll takesAll links
  have whole : ∀ link ∈ links, '\n' ∉ link.toList := by
    intro link inLinks
    exact feed_not_mem_of_mem_linksInAll oneLine inLinks
  have cut : lines = links.map fun link => RawText.ofString link ++ [0x0A] :=
    (congrArg outputLines taken).trans (outputLines_linesText whole)
  refine ⟨done, cut, ?_, ?_⟩
  · rw [cut, List.map_map]
    apply List.map_congr_left
    intro link inLinks
    rw [Function.comp_apply, List.dropLast_concat, RawText.text?_ofString]
  · intro unended line member
    rw [cut] at member
    obtain ⟨link, inLinks, rfl⟩ := List.mem_map.mp member
    obtain ⟨rest, rfl⟩ := exists_linkStart_append_of_mem_linksInAll unended inLinks
    rw [RawText.ofString_append, List.append_assoc]
    exact List.prefix_append ..

/-- The marker holds a line feed, and so two lines make one link. The device takes one byte at a
time and is interrupted before every other. -/
theorem outputLines_print_linksInAll_twoLines :
    ∃ pattern, make "on\n" "h" = .ok pattern ∧ '\n' ∉ pattern.linkStart.toList ∧
      ∃ device : Device, device.TakesAll ∧
        let links := pattern.linksInAll ["on\nhé\r\non\nh", "on\nhé"]
        let lines := outputLines (Writer.print { device } links).2.taken
        links = ["hé", "h", "hé"] ∧
          lines.map (fun line => RawText.text? line.dropLast) = [some "hé", some "h", some "hé"] ∧
          ∀ line ∈ lines, RawText.ofString "h" <+: line := by
  have made : make "on\n" "h" = .ok ⟨"on\n", "h", by decide⟩ := rfl
  have oneLine : '\n' ∉ "h".toList := by decide
  have takesAll : Device.TakesAll { portion := some 1, interruptions := (· % 2) } :=
    ⟨rfl, by decide, rfl⟩
  refine ⟨_, made, oneLine, _, takesAll, ?_⟩
  obtain ⟨-, -, read, starts⟩ := outputLines_print_linksInAll ⟨"on\n", "h", by decide⟩ oneLine
    ["on\nhé\r\non\nh", "on\nhé"] takesAll
  have links : (⟨"on\n", "h", by decide⟩ : Pattern).linksInAll ["on\nhé\r\non\nh", "on\nhé"] =
      ["hé", "h", "hé"] := by
    cbv
  refine ⟨links, ?_, starts (by decide)⟩
  exact read.trans (congrArg (List.map some) links)

end Pattern

end DependencyLinks
