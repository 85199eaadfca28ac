/-!
JSON values. A number is its literal text, so that nothing is lost between a number and its digits.
-/

namespace EventMesh

/-- A JSON value; the members of an object stand in the order in which they are written. -/
inductive Json where
  | null
  | bool (b : Bool)
  | number (literal : String)
  | str (s : String)
  | arr (items : List Json)
  | obj (members : List (String × Json))

namespace Json

/-- The number of an integer. -/
def ofInt (i : Int) : Json := .number (toString i)

end Json

end EventMesh
