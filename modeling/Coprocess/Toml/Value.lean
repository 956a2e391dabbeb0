/-!
# Settings documents: values

The data a settings document holds.  Numbers and dates are kept only as far as a reader of settings
needs them, which is to be told apart from texts and tables.
-/

namespace Coprocess.Toml

/-- A value of a settings document. -/
inductive Value where
  | string (s : String)
  | integer
  | float
  | boolean (b : Bool)
  | datetime
  | array (items : List Value)
  | table (entries : List (String × Value))
deriving Repr

namespace Value

/-- The entry of a given name. -/
def find? (name : String) (entries : List (String × Value)) : Option Value :=
  (entries.find? (·.1 == name)).map (·.2)

end Value

end Coprocess.Toml
