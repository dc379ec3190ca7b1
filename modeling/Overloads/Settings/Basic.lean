import Overloads.Fault

/-!
# Settings

What one run of the program is asked to do.
-/

namespace Overloads

structure Settings where
  /-- The file for the text; without it the text is printed. -/
  out : Option String := none
  /-- Compare with the file instead of writing it. -/
  check : Bool := false
  /-- Leave the compiler's warnings alone. -/
  omitPragmas : Bool := false
  logLevel : String := "warn"
deriving DecidableEq, Repr

inductive Mode where
  | print
  | write (path : String)
  | compare (path : String)
deriving DecidableEq, Repr

namespace Settings

def pragmas (s : Settings) : Bool := !s.omitPragmas

/-- Where the text goes; a comparison needs a file. -/
def mode (s : Settings) : Except Fault Mode :=
  match s.out, s.check with
  | none, false => .ok .print
  | none, true => .error .checkWithoutOutput
  | some path, false => .ok (.write path)
  | some path, true => .ok (.compare path)

end Settings

end Overloads
