import DependencyLinks.Failure

/-!
Declaration patterns. A declaration starts a line with a marker that a link follows at once, and
the link runs to the end of the line. Marker and link start may hold line feeds; then a match
spans lines, and the search goes on behind it.
-/

namespace DependencyLinks

/-- A match of a literal at a line start: its place, counted in characters, and what follows the
literal up to the end of the line. -/
structure Occurrence where
  start : Nat
  tail : List Char
deriving DecidableEq, Repr

namespace Occurrence

/-- The first line feed, if any, ends a line. -/
def lineEnd (cs : List Char) : List Char :=
  cs.takeWhile (· != '\n')

/-- The matches of a literal in a text that begins at `offset`, first match first. `lineStart` says
whether a line starts here. A match that takes up no text lets the search move on by one character,
any other lets it go on right behind the match. -/
def search (literal : List Char) (offset : Nat) (lineStart : Bool) : List Char → List Occurrence
  | [] => if lineStart && literal.isEmpty then [⟨offset, []⟩] else []
  | c :: rest =>
    if lineStart && literal.isPrefixOf (c :: rest) then
      let tail := lineEnd ((c :: rest).drop literal.length)
      let width := literal.length + tail.length
      if width = 0 then ⟨offset, tail⟩ :: search literal (offset + 1) true rest
      else ⟨offset, tail⟩ :: search literal (offset + width)
        (tail.isEmpty && literal.getLast? == some '\n') (rest.drop (width - 1))
    else search literal (offset + 1) (c == '\n') rest
termination_by cs => cs.length
decreasing_by all_goals simp only [List.length_cons, List.length_drop]; omega

end Occurrence

/-- The most bytes that the two literals of a pattern may take up together. -/
def Pattern.capacity : Nat := 327650

structure Pattern where
  marker : String
  linkStart : String
  fits : marker.utf8ByteSize + linkStart.utf8ByteSize ≤ Pattern.capacity
deriving DecidableEq

namespace Pattern

def defaultMarker : String := "depends: "

def defaultLinkStart : String := "https://github.com/"

def make (marker linkStart : String) : Except Failure Pattern :=
  if fits : marker.utf8ByteSize + linkStart.utf8ByteSize ≤ capacity then
    .ok { marker, linkStart, fits }
  else
    .error (.invalidPattern "Compiled regex exceeds size limit of 10485760 bytes.")

/-- The marker with the start of the link behind it. -/
def literal (pattern : Pattern) : List Char :=
  pattern.marker.toList ++ pattern.linkStart.toList

/-- Drops the carriage return of a line that a carriage return and a line feed end. -/
def dropReturn (cs : List Char) : List Char :=
  if cs.getLast? = some '\r' then cs.dropLast else cs

/-- The link of a match, without a carriage return at its end. -/
def link (pattern : Pattern) (occurrence : Occurrence) : String :=
  String.ofList (dropReturn (pattern.linkStart.toList ++ occurrence.tail))

def occurrences (pattern : Pattern) (body : String) : List Occurrence :=
  Occurrence.search pattern.literal 0 true body.toList

def linksIn (pattern : Pattern) (body : String) : List String :=
  (pattern.occurrences body).map pattern.link

/-- The links of several bodies, body after body. -/
def linksInAll (pattern : Pattern) (bodies : List String) : List String :=
  bodies.flatMap pattern.linksIn

end Pattern

end DependencyLinks
