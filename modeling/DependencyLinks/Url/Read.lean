import DependencyLinks.Url.Basic

/-! Reading a text as an absolute URL. -/

namespace DependencyLinks.Url

/-- Controls and spaces at the ends and tabs and line breaks anywhere do not count. -/
def clean (cs : List Char) : List Char :=
  let bare := ((cs.dropWhile (· ≤ ' ')).reverse.dropWhile (· ≤ ' ')).reverse
  bare.filter fun c => c != '\t' && c != '\n' && c != '\r'

def schemeChar (c : Char) : Bool :=
  c.isAlphanum || c == '+' || c == '-' || c == '.'

/-- The scheme in lower case and the text behind its colon. -/
def scheme? (cs : List Char) : Option (List Char × List Char) :=
  match (cs.head?.filter Char.isAlpha), cs.dropWhile schemeChar with
  | some _, ':' :: rest => some ((cs.takeWhile schemeChar).map Char.toLower, rest)
  | _, _ => none

/-- The port that a web scheme stands for. -/
def defaultPort? (scheme : String) : Option Nat :=
  if scheme = "http" ∨ scheme = "ws" then some 80
  else if scheme = "https" ∨ scheme = "wss" then some 443
  else if scheme = "ftp" then some 21
  else none

inductive SchemeKind where
  | web
  | file
  | other
deriving DecidableEq, Repr

def SchemeKind.of (scheme : String) : SchemeKind :=
  if scheme = "file" then .file
  else if (defaultPort? scheme).isSome then .web
  else .other

/-- The text behind the last at sign and the text before it. -/
def cutAtUser (cs : List Char) : Option (List Char) × List Char :=
  if cs.contains '@' then
    let host := (cs.reverse.takeWhile (· != '@')).reverse
    (some (cs.take (cs.length - host.length - 1)), host)
  else (none, cs)

/-- The host ends at the first colon outside brackets. -/
def hostLength (bracket : Bool) : List Char → Nat
  | [] => 0
  | c :: rest =>
    if c == ':' && !bracket then 0
    else hostLength (if c == '[' then true else if c == ']' then false else bracket) rest + 1

/-- The port behind a colon, unless it is the scheme's own. Digits end the authority, or a
backslash ends them. -/
def readPort (scheme : String) (cs : List Char) : Except Fault (Option Nat × List Char) :=
  let digits := cs.takeWhile Char.isDigit
  let rest := cs.dropWhile Char.isDigit
  if 65535 < Text.decimalValue digits then .error .port
  else if rest.isEmpty || rest.head? == some '\\' then
    if digits.isEmpty || defaultPort? scheme == some (Text.decimalValue digits) then .ok (none, rest)
    else .ok (some (Text.decimalValue digits), rest)
  else .error .port

/-- Reads user, host and port. `more` says whether anything follows the authority. Returns what is
left of the text when a backslash cuts the port off. -/
def readAuthority (scheme : String) (more : Bool) (cs : List Char) :
    Except Fault (Authority × List Char) := do
  let web := SchemeKind.of scheme != .other
  let (user, address) := cutAtUser cs
  if user == some [] && address.isEmpty && more then throw .emptyHost
  let (username, password) := Text.cutOnce ':' (user.getD [])
  let hostText := address.take (hostLength false address)
  let behind := address.drop (hostLength false address)
  if hostText.isEmpty && (web || !behind.isEmpty) then throw .emptyHost
  let host ← if web then Host.readDomain hostText else Host.readName hostText
  let (port, rest) ← if behind.isEmpty then pure (none, []) else readPort scheme (behind.drop 1)
  let authority : Authority := {
    username := String.ofList (escape userReserved username)
    password := String.ofList (escape userReserved (password.getD []))
    host := if hostText.isEmpty then none else some host
    port }
  if hostText.isEmpty && !(authority.username = "" && authority.password = "") then
    throw .emptyHost
  return (authority, rest)

/-- The place behind a web scheme: all leading slashes open the authority. -/
def readWeb (scheme : String) (more : Bool) (cs : List Char) : Except Fault Place := do
  let cs := cs.dropWhile (Path.slash true)
  let (before, path) := (cs.takeWhile (!Path.slash true ·), cs.dropWhile (!Path.slash true ·))
  let (authority, _) ← readAuthority scheme (more || !path.isEmpty) before
  return .path (some authority) ((Path.read true path).map String.ofList)

/-- The host of a file, if it is another one than this. -/
def readFileHost (cs : List Char) : Except Fault (Option Host) :=
  if cs.isEmpty then .ok none
  else (Host.readDomain cs).map fun host => if host = .name "localhost" then none else some host

/-- The place of a file. Two slashes open a host, unless a drive follows them. -/
def readFile (cs : List Char) : Except Fault Place := do
  let bare := cs.dropWhile (Path.slash true)
  let opened := 2 ≤ cs.length - bare.length
  let behind := cs.drop 2
  let hostText := behind.takeWhile (!Path.slash true ·)
  let (host, path) ←
    if !opened then pure (none, cs)
    else if Path.drive hostText then pure (none, behind)
    else do pure (← readFileHost hostText, behind.dropWhile (!Path.slash true ·))
  let segments := Path.readFile path
  return .path (some { host := if Path.onDrive segments then none else host })
    ((Path.dropEmpty segments).map String.ofList)

/-- The place behind any other scheme. Two slashes open an authority and one a path. -/
def readOther (scheme : String) (more : Bool) : List Char → Except Fault Place
  | '/' :: '/' :: cs => do
    let (before, path) := (cs.takeWhile (· != '/'), cs.dropWhile (· != '/'))
    let (authority, rest) ← readAuthority scheme (more || !path.isEmpty) before
    let path := rest ++ path
    return .path (some authority)
      (if path.isEmpty then [] else (Path.read false path).map String.ofList)
  | '/' :: cs => .ok (.path none ((Path.read false ('/' :: cs)).map String.ofList))
  | cs => .ok (.plain (String.ofList (escape [] cs)))

/-- Reads an absolute URL. -/
def read (input : String) : Except Fault Url := do
  match scheme? (clean input.toList) with
  | none => throw .relative
  | some (name, rest) =>
    let scheme := String.ofList name
    let kind := SchemeKind.of scheme
    let (rest, fragment) := Text.cutOnce '#' rest
    let (rest, query) := Text.cutOnce '?' rest
    let more := query.isSome || fragment.isSome
    let place ← match kind with
      | .web => readWeb scheme more rest
      | .file => readFile rest
      | .other => readOther scheme more rest
    let reserved := if kind = .other then queryReserved else webQueryReserved
    return {
      scheme, place
      query := query.map fun cs => String.ofList (escape reserved cs)
      fragment := fragment.map fun cs => String.ofList (escape fragmentReserved cs) }

end DependencyLinks.Url
