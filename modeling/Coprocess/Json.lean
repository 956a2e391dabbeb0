/-!
# JSON values

The values that configuration is exchanged in between programs.  Numbers keep only their being
numbers, since no setting is one; members of an object keep their order.
-/

namespace Coprocess

/-- A JSON value. -/
inductive Json where
  | null
  | bool (b : Bool)
  | number
  | string (s : String)
  | array (items : List Json)
  | object (members : List (String × Json))
deriving Repr, Inhabited

namespace Json

/-- The member of a given name, if it occurs. -/
def member? (name : String) (members : List (String × Json)) : Option Json :=
  (members.find? (·.1 == name)).map (·.2)

end Json

end Coprocess
