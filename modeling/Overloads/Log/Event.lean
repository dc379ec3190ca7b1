import Overloads.Log.Level

/-!
# Events

What the program reports while it works: a message and named values, from one
of its parts.
-/

namespace Overloads

structure Event where
  level : Level
  /-- The part of the program the event is from. -/
  target : String
  message : String
  fields : List (String × String) := []
deriving DecidableEq, Repr

namespace Event

/-- Is there a value of this name? The message is one too. -/
def has (e : Event) (name : String) : Bool :=
  name = "message" || e.fields.any fun f => f.1 = name

def line (e : Event) : String :=
  e.level.label ++ " " ++ e.target ++ ": " ++ e.message ++
    String.join (e.fields.map fun f => " " ++ f.1 ++ "=" ++ f.2)

end Event

end Overloads
