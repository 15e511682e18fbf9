import DependencyLinks.Text.Cut
import DependencyLinks.Url.Escape

/-! The path of a URL: segments, of which one dot stands for none and two dots take one back. -/

namespace DependencyLinks.Url.Path

/-- A dot may be written as an escape. -/
def plainDots (segment : List Char) : List Char :=
  match segment with
  | '%' :: '2' :: 'e' :: rest | '%' :: '2' :: 'E' :: rest => '.' :: plainDots rest
  | c :: rest => c :: plainDots rest
  | [] => []

def staysHere (segment : List Char) : Bool :=
  plainDots segment == ['.']

def goesUp (segment : List Char) : Bool :=
  plainDots segment == ['.', '.']

/-- A letter and a colon or a bar name a drive. -/
def drive : List Char → Bool
  | [letter, mark] => letter.isAlpha && (mark == ':' || mark == '|')
  | _ => false

/-- Takes the latest segment back, unless it names a drive. -/
def up : List (List Char) → List (List Char)
  | [] => []
  | latest :: earlier => if drive latest then latest :: earlier else earlier

/-- In a file path, a drive as the first segment is written with a colon. -/
def fixDrive (settled : List (List Char)) (segment : List Char) : List Char :=
  match segment with
  | [letter, mark] => if settled.isEmpty && drive [letter, mark] then [letter, ':'] else segment
  | _ => segment

/-- Resolves the dots of segments behind those already settled, latest first. A path that ends in
dots ends in an empty segment. -/
def resolve (file : Bool) (settled : List (List Char)) : List (List Char) → List (List Char)
  | [] => settled.reverse
  | segment :: rest =>
    if goesUp segment then
      if rest.isEmpty then ([] :: up settled).reverse else resolve file (up settled) rest
    else if staysHere segment then
      if rest.isEmpty then ([] :: settled).reverse else resolve file settled rest
    else
      resolve file ((if file then fixDrive settled segment else segment) :: settled) rest

/-- The slashes of a path, which in the web schemes may lean backwards. -/
def slash (web : Bool) (c : Char) : Bool :=
  c == '/' || (web && c == '\\')

/-- The escaped segments behind the leading slash, which may be missing. -/
def segments (web : Bool) (cs : List Char) : List (List Char) :=
  let behind := match cs with
    | c :: rest => if slash web c then rest else c :: rest
    | [] => []
  (Text.cutAt (slash web) behind).map (escape pathReserved)

def read (web : Bool) (cs : List Char) : List (List Char) :=
  resolve false [] (segments web cs)

def readFile (cs : List Char) : List (List Char) :=
  resolve true [] (segments true cs)

/-- A path that starts with a drive is on no host. -/
def onDrive (segments : List (List Char)) : Bool :=
  (segments.head?.map drive).getD false

/-- A file path starts with a single slash. -/
def dropEmpty : List (List Char) → List (List Char)
  | [] :: segment :: rest => dropEmpty (segment :: rest)
  | segments => segments

end DependencyLinks.Url.Path
