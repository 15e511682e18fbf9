import DependencyLinks.Text.Range

/-! White space, and a text without the white space at its two ends. -/

namespace DependencyLinks.Text

/-- The Unicode property White_Space. -/
def blankRanges : List Range := [
  (0x0009, 0x000D), (0x0020, 0x0020), (0x0085, 0x0085), (0x00A0, 0x00A0), (0x1680, 0x1680),
  (0x2000, 0x200A), (0x2028, 0x2029), (0x202F, 0x202F), (0x205F, 0x205F), (0x3000, 0x3000)]

def blank (c : Char) : Bool :=
  inRanges blankRanges c

/-- Drops the blanks before the first and after the last character that is none. -/
def strip (cs : List Char) : List Char :=
  ((cs.dropWhile blank).reverse.dropWhile blank).reverse

def trim (s : String) : String :=
  String.ofList (strip s.toList)

theorem toList_trim (s : String) : (trim s).toList = strip s.toList := by
  simp [trim]

end DependencyLinks.Text
