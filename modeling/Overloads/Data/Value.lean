import Overloads.Data.Fields
import Overloads.Number.Binary64
import Overloads.Text.Quoted

/-!
# Structured values

What settings are read from: plain values, arrays and objects. One value can
be laid over another: objects are merged field by field, and anything else
takes the place of what was there.
-/

namespace Overloads

inductive Value where
  | null
  | bool (b : Bool)
  | integer (n : Int)
  | float (x : Binary64)
  | string (s : String)
  | array (items : List Value)
  | object (fields : List (String × Value))

namespace Value

/-- The fields of an object; other values have none. -/
def fields : Value → Fields Value
  | .object fs => fs
  | _ => []

mutual

def overlay (base : Value) : Value → Value
  | .object fs => .object (overlayFields base.fields fs)
  | v => v

/-- Lays fields over others, one by one; a new field is taken as it is. -/
def overlayFields (base : Fields Value) : List (String × Value) → Fields Value
  | [] => base
  | (name, v) :: fs =>
    overlayFields
      (base.put name (match base.get? name with
        | none => v
        | some old => overlay old v))
      fs

end

/-- A value as error texts speak of it. -/
def describe : Value → String
  | .null => "null"
  | .bool b => "boolean `" ++ toString b ++ "`"
  | .integer n => "integer `" ++ toString n ++ "`"
  | .float x => "floating point `" ++ x.text ++ "`"
  | .string s => "string " ++ Text.quoted s
  | .array _ => "sequence"
  | .object _ => "map"

def kind : Value → String
  | .null => "null"
  | .bool _ => "a boolean"
  | .integer _ | .float _ => "a number"
  | .string _ => "a string"
  | .array _ => "an array"
  | .object _ => "an object"

end Value

end Overloads
