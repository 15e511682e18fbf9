import DependencyLinks.Remote.Server
import DependencyLinks.Text.Blank
import DependencyLinks.Text.Cut
import DependencyLinks.Text.Decimal
import DependencyLinks.Text.Utf8

/-!
Requests and responses as the bytes that travel. A connection carries one request, so a response
ends where its length or its last chunk says, and without either where the connection ends.
-/

namespace DependencyLinks.Remote

namespace Message

def lineFeed : UInt8 := 0x0A

def carriageReturn : UInt8 := 0x0D

/-- The first line, without what ends it, and what is behind it. -/
def line? (bytes : RawText) : Option (RawText × RawText) :=
  match bytes.dropWhile (· != lineFeed) with
  | [] => none
  | _ :: rest =>
    let line := bytes.takeWhile (· != lineFeed)
    some (if line.getLast? = some carriageReturn then line.dropLast else line, rest)

theorem length_of_line? {bytes line rest : RawText} (found : line? bytes = some (line, rest)) :
    rest.length < bytes.length := by
  have shorter := (List.dropWhile_suffix (l := bytes) (· != lineFeed)).length_le
  unfold line? at found
  split at found
  · simp at found
  · rename_i later split
    have same : later = rest := congrArg Prod.snd (Option.some.inj found)
    rw [split, same] at shorter
    exact Nat.lt_of_succ_le shorter

/-- The headers up to an empty line, and what is behind it. -/
def headers? (bytes : RawText) : Option (List (String × String) × RawText) :=
  match found : line? bytes with
  | none => none
  | some ([], rest) => some ([], rest)
  | some (line, rest) =>
    have := length_of_line? found
    match Text.cutOnce ':' (Utf8.lossy line) with
    | (_, none) => none
    | (name, some value) => do
      let (later, body) ← headers? rest
      return ((String.ofList name, String.ofList (Text.strip value)) :: later, body)
termination_by bytes.length

/-- The number that a row of hexadecimal digits in either case writes. -/
def hexadecimal? (cs : List Char) : Option Nat :=
  if cs.isEmpty then none
  else cs.foldlM (fun value c =>
    if c.isDigit then some (16 * value + (c.toNat - '0'.toNat))
    else if 'a' ≤ c.toLower ∧ c.toLower ≤ 'f' then
      some (16 * value + (c.toLower.toNat - 'a'.toNat + 10))
    else none) 0

/-- The size of a chunk, which an extension may follow. -/
def chunkSize? (line : RawText) : Option Nat :=
  hexadecimal? (Text.strip (Text.cutOnce ';' (Utf8.lossy line)).1)

/-- What the chunks up to the empty one hold. A line break of two bytes follows each. -/
def chunks? (bytes : RawText) : Option RawText :=
  match found : line? bytes with
  | none => none
  | some (line, rest) =>
    match chunkSize? line with
    | none => none
    | some 0 => some []
    | some (n + 1) =>
      have := length_of_line? found
      if rest.length ≤ n then none
      else (chunks? (rest.drop (n + 3))).map (rest.take (n + 1) ++ ·)
termination_by bytes.length

/-- The body of a response. One that breaks off is none. -/
def body? (headers : List (String × String)) (rest : RawText) : Option RawText :=
  match header? headers "transfer-encoding", header? headers "content-length" with
  | some _, _ => chunks? rest
  | none, some length => do
    let length ← Text.digits? length.toList
    if rest.length < length then none else some (rest.take length)
  | none, none => some rest

/-- The status code, which is the second word of the first line. -/
def status? (line : RawText) : Option Nat := do
  let words := Text.cutAt (· == ' ') (Utf8.lossy line)
  if "HTTP/1.".toList.isPrefixOf (← words.head?) then Text.digits? (← words[1]?) else none

def headerText (name value : String) : String :=
  name ++ ": " ++ value ++ "\r\n"

end Message

/-- The host that a request is for, with the port if it names one, but without a user. -/
def Request.host (request : Request) : String :=
  String.ofList (((Text.cutAt (· == '@') request.authority.toList).getLast?).getD [])

/-- Where a request is sent: the name or address of the host, and its port. -/
def Request.destination? (request : Request) : Option (String × Nat) :=
  let (name, behind) := match Text.cutOnce ']' request.host.toList with
    | ('[' :: address, some rest) => (address, (Text.cutOnce ':' rest).2)
    | _ => Text.cutOnce ':' request.host.toList
  match behind with
  | none | some [] => some (String.ofList name, 80)
  | some digits => do
    let port ← Text.digits? digits
    if port < 65536 then some (String.ofList name, port) else none

def Request.bytes (request : Request) : RawText :=
  RawText.ofString ("GET " ++ request.target ++ " HTTP/1.1\r\n" ++
    Message.headerText "Host" request.host ++
    Message.headerText "User-Agent" "downstream-prs" ++
    Message.headerText "Accept" "application/json" ++
    (request.authorization.map (Message.headerText "Authorization")).getD "" ++
    Message.headerText "Connection" "close" ++ "\r\n")

/-- A body that is no text is of no use and counts as empty. -/
def Response.ofBytes? (bytes : RawText) : Option Response := do
  let (line, rest) ← Message.line? bytes
  let status ← Message.status? line
  let (headers, rest) ← Message.headers? rest
  let body ← Message.body? headers rest
  return { status, headers, body := (RawText.text? body).getD "" }

/-- A response that cannot be read is a lost connection. -/
def Reply.ofBytes (bytes : RawText) : Reply :=
  match Response.ofBytes? bytes with
  | some response => .answered response
  | none => .lost

end DependencyLinks.Remote
