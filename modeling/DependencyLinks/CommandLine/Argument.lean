import DependencyLinks.Settings.Field
import DependencyLinks.Text.Utf8

/-! What a single argument of the command line is, read from its text. -/

namespace DependencyLinks

/-- What is printed in place of a list of links. -/
inductive InfoRequest where
  | version
  | help
deriving DecidableEq, Repr

namespace InfoRequest

/-- The usage line, as help and faults show it. -/
def usageLine : String := "downstream-prs [OPTIONS] <PR_NUMBER>"

def text : InfoRequest → String
  | version => "downstream-prs 0.1.0\n"
  | help =>
    "Lists the downstream pull requests declared in a pull request's comments.\n\n" ++
    "Usage: " ++ usageLine ++ "\n\n" ++
    "Arguments:\n" ++
    "  <PR_NUMBER>                  Pull request whose comments are scanned\n" ++
    "\n" ++
    "Options:\n" ++
    "  -t, --token <TOKEN>          GitHub token (falls back to GH_TOKEN, then GITHUB_TOKEN)\n" ++
    "  -o, --owner <OWNER>          Repository owner [default: GoogleCloudPlatform]\n" ++
    "  -r, --repo <REPO>            Repository name [default: magic-modules]\n" ++
    "      --api-base <URL>         GitHub API base URL [default: https://api.github.com]\n" ++
    "      --marker <TEXT>          Text that starts a dependency line [default: \"depends: \"]\n" ++
    "      --url-prefix <PREFIX>    Prefix a dependency URL must carry [default: https://github.com/]\n" ++
    "  -h, --help                   Print help\n" ++
    "  -V, --version                Print version\n"

/-- Help outranks the version, and either outranks no request. -/
def outranking : Option InfoRequest → Option InfoRequest → Option InfoRequest
  | some help, _ | _, some help => some help
  | some version, _ | _, some version => some version
  | none, none => none

end InfoRequest

/-- What an argument is where an option may stand. -/
inductive Argument where
  | separator
  | positional
  | info (request : InfoRequest)
  | value (field : Field) (inline : Bool)
  | unknown (name : String)
deriving DecidableEq, Repr

namespace Argument

/-- The text before the first equals sign. -/
def name (cs : List Char) : String :=
  String.ofList (cs.takeWhile (· != '='))

def ofText (cs : List Char) : Argument :=
  if cs = ['-', '-'] then .separator
  else if cs.head? ≠ some '-' ∨ cs = ['-'] then .positional
  else if cs = "--help".toList ∨ cs = "-h".toList then .info .help
  else if cs = "--version".toList ∨ cs = "-V".toList then .info .version
  else match Field.ofOption? (name cs) with
    | some field => .value field (cs.contains '=')
    | none => .unknown (name cs)

def ofRaw (raw : RawText) : Argument :=
  ofText (Utf8.lossy raw)

end Argument

end DependencyLinks
