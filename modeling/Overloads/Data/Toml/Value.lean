import Overloads.Data.Value

/-!
# Values of a TOML document

A document has kinds of values that structured values have not: numbers that
are not finite, and dates and times. `plain` gives the structured value.
-/

namespace Overloads.Toml

inductive Value where
  | string (s : String)
  | integer (n : Int)
  | float (x : Binary64)
  /-- An infinite number, or none at all. -/
  | notFinite
  | bool (b : Bool)
  /-- A date, a time or both, as written. -/
  | moment (text : String)
  | array (items : List Value)
  | table (fields : List (String × Value))

namespace Value

mutual

/-- The structured value: what is not finite is null, and a moment is an object. -/
def plain : Value → Overloads.Value
  | .string s => .string s
  | .integer n => .integer n
  | .float x => .float x
  | .notFinite => .null
  | .bool b => .bool b
  | .moment text => .object [("moment", .string text)]
  | .array items => .array (plainItems items)
  | .table fields => .object (plainFields fields)

def plainItems : List Value → List Overloads.Value
  | [] => []
  | v :: vs => plain v :: plainItems vs

def plainFields : List (String × Value) → Fields Overloads.Value
  | [] => []
  | (name, v) :: fs => (name, plain v) :: plainFields fs

end

end Value

end Overloads.Toml
