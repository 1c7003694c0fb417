/-!
# JSON values

The values that reports and messages are made of: numbers are integers, and an object keeps its fields in the order in
which they were given.
-/

namespace Readback

/-- A JSON value whose numbers are integers. -/
inductive Json where
  | null
  | bool (b : Bool)
  | int (n : Int)
  | str (s : String)
  | arr (items : List Json)
  | obj (fields : List (String × Json))
  deriving Inhabited, Repr

namespace Json

/-- A natural number as a value. -/
def nat (n : Nat) : Json := .int n

/-- The value, or null if there is none. -/
def ofOption (f : α → Json) : Option α → Json
  | none => .null
  | some a => f a

/-- A field that is left out when it has no value. -/
def optionalField (name : String) (f : α → Json) : Option α → List (String × Json)
  | none => []
  | some a => [(name, f a)]

/-- The first field of that name. -/
def field? (name : String) : Json → Option Json
  | .obj fields => fields.lookup name
  | _ => none

end Json

end Readback
