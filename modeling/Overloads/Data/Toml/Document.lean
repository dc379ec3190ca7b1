import Overloads.Data.Toml.Syntax

/-!
# TOML documents

A document is read line by line into one table. Assignments go to the table of
the last header, or to the document itself before any header.
-/

namespace Overloads.Toml

/-- A document as far as it is read, and the path of the table being filled. -/
structure Draft where
  fields : Fields Item := []
  current : List String := []

namespace Draft

/-- Enters one line, unless it contradicts earlier ones. -/
def enter (d : Draft) : Line → Option Draft
  | .blank => some d
  | .assignment ks v =>
    (Table.within (Table.assign ks v) d.current d.fields).map fun fs => { d with fields := fs }
  | .table ks =>
    (Table.within (Table.openTable (ks.getLastD "")) ks.dropLast d.fields).map fun fs => ⟨fs, ks⟩
  | .tables ks =>
    (Table.within (Table.openNext (ks.getLastD "")) ks.dropLast d.fields).map fun fs => ⟨fs, ks⟩

end Draft

def read? (text : String) : Option (Fields Value) := do
  let ls ← Scan.whole? lines text.toList
  let d ← ls.foldlM Draft.enter {}
  return Table.values d.fields

end Overloads.Toml
