import DependencyLinks.Text.Cut

/-!
Request addresses: an authority and a target, after a scheme or none. The grammar is narrower than
that of URLs, and nothing is escaped on the way in.
-/

namespace DependencyLinks

/-- An address whose parts are kept as they are written, but for a fragment. -/
structure Uri where
  scheme : Option String := none
  authority : Option String := none
  target : Option String := none
deriving DecidableEq, Repr

namespace Uri

inductive Fault where
  | empty
  | tooLong
  | schemeTooLong
  | format
  | character
  | authority
deriving DecidableEq, Repr

def Fault.message : Fault → String
  | empty => "empty string"
  | tooLong => "uri too long"
  | schemeTooLong => "scheme too long"
  | format => "invalid format"
  | character => "invalid uri character"
  | authority => "invalid authority"

/-- The most bytes of an address. -/
def capacity : Nat := 65534

/-- Letters, digits and the punctuation that an authority may hold unescaped. -/
def plain (c : Char) : Bool :=
  c.isAlphanum || "!$&'()*+,-.:;=@[]_~".toList.contains c

/-- What has been seen of an authority. Colons and escapes do not count once a user or a bracketed
host turns out to have held them. -/
structure AuthorityScan where
  colons : Nat := 0
  opened : Bool := false
  closed : Bool := false
  escaped : Bool := false
  last : Option Char := none

def AuthorityScan.step (scan : AuthorityScan) (c : Char) : Except Fault AuthorityScan :=
  if c = '%' then .ok { scan with escaped := true, last := some c }
  else if !plain c then .error .character
  else if c = ':' then
    if 8 ≤ scan.colons then .error .authority
    else .ok { scan with colons := scan.colons + 1, last := some c }
  else if c = '[' then
    if scan.escaped || scan.opened then .error .authority
    else .ok { scan with opened := true, last := some c }
  else if c = ']' then
    if !scan.opened || scan.closed then .error .authority
    else .ok { scan with closed := true, colons := 0, escaped := false, last := some c }
  else if c = '@' then .ok { scan with colons := 0, escaped := false, last := some c }
  else .ok { scan with last := some c }

def AuthorityScan.finish (scan : AuthorityScan) : Except Fault Unit :=
  if scan.opened != scan.closed || 1 < scan.colons || scan.last == some '@' || scan.escaped then
    .error .authority
  else .ok ()

def checkAuthority (cs : List Char) : Except Fault Unit := do
  (← cs.foldlM AuthorityScan.step {}).finish

def authorityEnd (c : Char) : Bool :=
  c == '/' || c == '?' || c == '#'

/-- No control, space or angle bracket stands in a target. -/
def targetChar (c : Char) : Bool :=
  0x20 < c.toNat && c.toNat != 0x7F && c != '<' && c != '>'

/-- A target without its fragment: a path that holds no grave accent and a query that holds no
double quote. -/
def readTarget (cs : List Char) : Except Fault String :=
  let bare := cs.takeWhile (· != '#')
  let (path, query) := Text.cutOnce '?' bare
  if path.all (fun c => targetChar c && c != '\x60') &&
      (query.getD []).all (fun c => targetChar c && c != '"') then
    .ok (String.ofList bare)
  else .error .character

def schemeChar (c : Char) : Bool :=
  c.isAlphanum || c == '+' || c == '-' || c == '.'

/-- The scheme before a colon and two slashes, and what is behind them. -/
def cutScheme (cs : List Char) : Except Fault (Option (List Char) × List Char) :=
  match cs.dropWhile schemeChar with
  | ':' :: '/' :: '/' :: rest =>
    let scheme := cs.takeWhile schemeChar
    if 64 < scheme.length then .error .schemeTooLong else .ok (some scheme, rest)
  | _ => .ok (none, cs)

/-- Reads a target alone, an authority alone, or all three parts. -/
def read (input : String) : Except Fault Uri := do
  if capacity < input.utf8ByteSize then throw .tooLong
  match input.toList with
  | [] => throw .empty
  | '/' :: rest => return { target := some (← readTarget ('/' :: rest)) }
  | ['*'] => return { target := some "*" }
  | cs =>
    let (scheme, rest) ← cutScheme cs
    if rest.isEmpty then throw .empty
    let authority := rest.takeWhile (!authorityEnd ·)
    let target := rest.dropWhile (!authorityEnd ·)
    checkAuthority authority
    match scheme with
    | none =>
      if target.isEmpty then return { authority := some (String.ofList authority) }
      else throw .format
    | some scheme =>
      if authority.isEmpty then throw .format
      return {
        scheme := some (String.ofList scheme)
        authority := some (String.ofList authority)
        target := some (← readTarget target) }

end Uri

end DependencyLinks
