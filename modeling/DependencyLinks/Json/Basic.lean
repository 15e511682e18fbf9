/-! JSON values. Members keep their order and may share a key. -/

namespace DependencyLinks

inductive Json where
  | null
  | bool (value : Bool)
  | natural (value : Nat)
  | numeral (text : String)
  | string (value : String)
  | array (items : List Json)
  | object (members : List (String × Json))
deriving Repr, Inhabited

namespace Json

/-- The values that a key is given, in order. -/
def values (members : List (String × Json)) (key : String) : List Json :=
  members.filterMap fun member => if member.1 = key then some member.2 else none

/-- The last value that a key is given. -/
def last? (members : List (String × Json)) (key : String) : Option Json :=
  (values members key).getLast?

end Json

end DependencyLinks
