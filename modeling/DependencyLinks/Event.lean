/-! What a scan reports on its way. -/

namespace DependencyLinks

inductive Event where
  | anonymous
  | scanning (apiBase owner repository : String) (number : Nat)
  | resolved (number : Nat) (title : String)
  | threadRead (pages comments : Nat)
  | commentsLoaded (count : Nat)
  | linksExtracted (number count : Nat)
deriving DecidableEq, Repr

namespace Event

inductive Level where
  | debug
  | warning
deriving DecidableEq, Repr

inductive Value where
  | number (n : Nat)
  | text (s : String)
deriving DecidableEq, Repr

def level : Event → Level
  | anonymous => .warning
  | _ => .debug

def message : Event → String
  | anonymous => "no GitHub token configured; sending unauthenticated requests"
  | scanning .. => "scanning pull request comments"
  | resolved .. => "resolved pull request"
  | threadRead .. => "read issue thread"
  | commentsLoaded _ => "loaded issue comments"
  | linksExtracted .. => "extracted downstream dependencies"

def fields : Event → List (String × Value)
  | anonymous => []
  | scanning apiBase owner repository number =>
    [("owner", .text owner), ("repo", .text repository), ("number", .number number),
      ("api_base", .text apiBase)]
  | resolved number title => [("number", .number number), ("title", .text title)]
  | threadRead pages comments => [("pages", .number pages), ("comments", .number comments)]
  | commentsLoaded count => [("count", .number count)]
  | linksExtracted number count => [("pull_request", .number number), ("count", .number count)]

end Event

end DependencyLinks
