/-!
# Named fields

Fields are kept in the order in which their names first came up. `put` sets
one field and leaves the others alone (`get?_put`).
-/

namespace Overloads

abbrev Fields (α : Type) := List (String × α)

namespace Fields
variable {α : Type}

def get? : Fields α → String → Option α
  | [], _ => none
  | (k, v) :: fs, name => if k = name then some v else get? fs name

/-- Sets the value under a name; a new name goes to the end. -/
def put : Fields α → String → α → Fields α
  | [], name, x => [(name, x)]
  | (k, v) :: fs, name, x => if k = name then (k, x) :: fs else (k, v) :: put fs name x

def erase : Fields α → String → Fields α
  | [], _ => []
  | (k, v) :: fs, name => if k = name then erase fs name else (k, v) :: erase fs name

theorem get?_put (fs : Fields α) (name other : String) (x : α) :
    (fs.put name x).get? other = if name = other then some x else fs.get? other := by
  induction fs with
  | nil => simp [put, get?]
  | cons f fs ih =>
    obtain ⟨k, v⟩ := f
    by_cases hk : k = name
    · subst hk; by_cases ho : k = other <;> simp [put, get?, ho]
    · by_cases ho : k = other
      · subst ho; simp [put, get?, hk, show ¬ name = k from fun e => hk e.symm]
      · simp [put, get?, hk, ho, ih]

end Fields

end Overloads
