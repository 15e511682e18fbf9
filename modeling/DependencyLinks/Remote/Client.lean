import DependencyLinks.Locator
import DependencyLinks.Remote.Server
import DependencyLinks.Uri

/-! A client keeps the address of the API and the token, and puts both into its requests. -/

namespace DependencyLinks.Remote

structure Client where
  base : Uri
  token : Option AccessToken
deriving DecidableEq, Repr

namespace Client

/-- The URL of the API has to be an address that requests can be sent to. -/
def connect (token : Option AccessToken) (locator : Locator) : Except Failure Client :=
  match Uri.read locator.apiBase.text with
  | .ok base => .ok { base, token }
  | .error fault => .error (.invalidUrl fault.message)

/-- A target as it is sent: the path is never empty. -/
def sent (target : String) : String :=
  if target.startsWith "/" || target = "*" then target else "/" ++ target

/-- The path and query of an address that has any. -/
def target? (uri : Uri) : Option String :=
  match uri.target with
  | some target => some (sent target)
  | none => if uri.scheme.isSome then some "/" else none

/-- The path of the base, without slashes at its end. -/
def basePath (client : Client) : List Char :=
  let path := (Text.cutOnce '?' ((target? client.base).getD "/").toList).1
  (path.reverse.dropWhile (· == '/')).reverse

/-- Puts a target behind the path of the base, unless it starts with that path. -/
def placed (client : Client) (target : String) : String :=
  if client.basePath.isPrefixOf target.toList then target
  else String.ofList (client.basePath ++ target.toList)

/-- An address without path and query stands for the base itself. -/
def request (client : Client) (uri : Uri) : Request where
  scheme := client.base.scheme.getD ""
  authority := client.base.authority.getD ""
  target :=
    match target? uri with
    | some target => client.placed target
    | none => (target? client.base).getD "/"
  authorization := client.token.map fun token => "Bearer " ++ token.text

end Client

end DependencyLinks.Remote
