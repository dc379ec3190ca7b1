import Overloads.Family.Name
import Overloads.Text.Pieces

/-!
# Guarded constructions

A guarded construction allocates storage under a guard, constructs in it and
hands it over: when the constructor throws, the guard releases the storage.
There is one for each number of arguments, which it takes by deduced type. A
compiler warning about the construction can be silenced around it.
-/

namespace Overloads

/-- The construction from so many arguments. -/
structure Guarded where
  arity : Nat
deriving DecidableEq, Repr

namespace Guarded

/-- The function that allocates and constructs under a guard. -/
def function : String := "tpie_unsafe_new"

/-- The guard that owns the storage until it is finalized. -/
def guardType : String := "allocation_scope_magic"

/-- The warning silenced around the construction. -/
def silencedWarning : Nat := 4345

def templateParameters (g : Guarded) : List String :=
  Overloads.templateParameters g.arity

def parameters (g : Guarded) : List String :=
  (List.range g.arity).map fun i => parameter (argumentType i) i

def arguments (g : Guarded) : List String :=
  argumentNames g.arity

def silence : List String :=
  ["#ifdef WIN32", "#pragma warning(push)",
    "#pragma warning(disable: " ++ toString silencedWarning ++ ")", "#endif"]

def restore : List String :=
  ["#ifdef WIN32", "#pragma warning(pop)", "#endif"]

/-- The lines of the definition; some of them end in a blank. -/
def lines (pragmas : Bool) (g : Guarded) : List String :=
  ["template <" ++ Text.listing g.templateParameters ++ ">",
    "T * " ++ function ++ "(" ++ Text.listing g.parameters ++ ") \x7b",
    "   " ++ guardType ++ "<T> m; "] ++
  (if pragmas then silence else []) ++
  ["   new(m.allocate()) T(" ++ Text.listing g.arguments ++ "); "] ++
  (if pragmas then restore else []) ++
  ["   return m.finalize();", "\x7d"]

def render (pragmas : Bool) (g : Guarded) : String :=
  Text.unlines (g.lines pragmas)

theorem length_lines (pragmas : Bool) (g : Guarded) :
    (g.lines pragmas).length = if pragmas then 13 else 6 := by
  cases pragmas <;> rfl

end Guarded

end Overloads
