/-!
# Scanning a text

A scanner takes something off the front of a text, or fails. Scanners are put
together with `do`, and `<|>` tries a second one where the first fails.
Repetition ends at the first failure, and where a scanner takes nothing.
-/

namespace Overloads

abbrev Scan := StateT (List Char) Option

namespace Scan
variable {α β : Type}

def whole? (p : Scan α) (cs : List Char) : Option α :=
  match p.run cs with
  | some (x, []) => some x
  | _ => none

def char (k : Char → Bool) : Scan Char := fun cs =>
  match cs with
  | c :: cs => if k c then some (c, cs) else none
  | [] => none

def run (k : Char → Bool) : Scan (List Char) := fun cs =>
  some (cs.takeWhile k, cs.dropWhile k)

def exactly (text : String) : Scan Unit := fun cs =>
  if text.toList.isPrefixOf cs then some ((), cs.drop text.length) else none

def atEnd : Scan Unit := fun cs => if cs.isEmpty then some ((), cs) else none

def peek (p : Scan α) : Scan α := fun cs => (p cs).map fun r => (r.1, cs)

/-- Succeeds, with nothing taken, unless the value is missing. -/
def ofOption : Option α → Scan α
  | some x => pure x
  | none => failure

def many (p : Scan α) (cs : List Char) : Option (List α × List Char) :=
  match p cs with
  | none => some ([], cs)
  | some (x, rest) =>
    if rest.length < cs.length then
      (many p rest).map fun (xs, rest) => (x :: xs, rest)
    else some ([], cs)
termination_by cs.length

def separated (p : Scan α) (separator : Scan β) : Scan (List α) := do
  let x ← p
  let xs ← many (separator *> p)
  return x :: xs

end Scan

end Overloads
