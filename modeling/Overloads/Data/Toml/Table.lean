import Overloads.Data.Toml.Value

/-!
# Tables of a TOML document

While a document is read, a table may still grow. Which of its tables may is
decided by how they came about: by a header, by the parts of a longer header,
or by the parts of an assigned key. Values, and so inline tables, are closed.
-/

namespace Overloads.Toml

/-- How a table came about. -/
inductive Origin where
  /-- It has a header of its own. -/
  | header
  /-- It is on the way to a table with a header. -/
  | implied
  /-- It is on the way to an assigned key. -/
  | dotted
deriving DecidableEq

inductive Item where
  | value (v : Value)
  | table (origin : Origin) (fields : List (String × Item))
  /-- The tables of one name, each with a header, in reverse order. -/
  | tables (last : List (String × Item)) (before : List (List (String × Item)))

namespace Table

/-- Assigns a value to a key. What is on the way must not have a header, and the table the
value goes into must have come about by assignments, unless it is the one at hand. -/
def assign : List String → Value → Fields Item → Option (Fields Item)
  | [], _, _ => none
  | [k], v, fs => match fs.get? k with
    | none => some (fs.put k (.value v))
    | some _ => none
  | k :: ks, v, fs => match fs.get? k with
    | none => (assign ks v []).map fun inner => fs.put k (.table .dotted inner)
    | some (.table origin inner) =>
      if origin = .header || (ks.length = 1 && origin ≠ .dotted) then none
      else (assign ks v inner).map fun inner => fs.put k (.table origin inner)
    | some (.tables last before) =>
      if ks.length = 1 then none
      else (assign ks v last).map fun last => fs.put k (.tables last before)
    | some (.value _) => none

/-- Changes the table at the end of a path of names. Of tables with one name the last is
meant, and missing tables are implied. -/
def within (f : Fields Item → Option (Fields Item)) :
    List String → Fields Item → Option (Fields Item)
  | [], fs => f fs
  | k :: ks, fs => match fs.get? k with
    | none => (within f ks []).map fun inner => fs.put k (.table .implied inner)
    | some (.table origin inner) =>
      (within f ks inner).map fun inner => fs.put k (.table origin inner)
    | some (.tables last before) =>
      (within f ks last).map fun last => fs.put k (.tables last before)
    | some (.value _) => none

/-- Opens the table of a header: a new one, or one that is only implied. -/
def openTable (k : String) (fs : Fields Item) : Option (Fields Item) :=
  match fs.get? k with
  | none => some (fs.put k (.table .header []))
  | some (.table .implied inner) => some (fs.put k (.table .header inner))
  | some _ => none

/-- Opens one more table of a name that only such tables have. -/
def openNext (k : String) (fs : Fields Item) : Option (Fields Item) :=
  match fs.get? k with
  | none => some (fs.put k (.tables [] []))
  | some (.tables last before) => some (fs.put k (.tables [] (last :: before)))
  | some _ => none

mutual

def itemValue : Item → Value
  | .value v => v
  | .table _ fs => .table (values fs)
  | .tables last before => .array ((.table (values last) :: tableValues before).reverse)

def values : List (String × Item) → Fields Value
  | [] => []
  | (name, item) :: fs => (name, itemValue item) :: values fs

def tableValues : List (List (String × Item)) → List Value
  | [] => []
  | fs :: rest => .table (values fs) :: tableValues rest

end

end Table

end Overloads.Toml
