import Overloads.Argument.Constness
import Overloads.Family.Guarded

/-!
# Forwarding overloads

A forwarding overload takes each argument by reference, as its constness says,
and passes the arguments on by name to the guarded construction of the same
arity. The type of each reference is spelled out in that call, so the
construction deduces no other.
-/

namespace Overloads

/-- The overload whose arguments are bound this way. -/
structure Forwarding where
  constness : Constness
deriving DecidableEq

namespace Forwarding

def function : String := "tpie_new"

def arity (f : Forwarding) : Nat := f.constness.arity

def target (f : Forwarding) : Guarded := ⟨f.arity⟩

def templateParameters (f : Forwarding) : List String :=
  Overloads.templateParameters f.arity

def parameters (f : Forwarding) : List String :=
  f.constness.bindings.mapIdx fun i b => parameter (b.reference (argumentType i)) i

/-- The template arguments spelled out in the forwarded call. -/
def explicitTypes (f : Forwarding) : List String :=
  constructedType :: f.constness.bindings.mapIdx fun i b => b.reference (argumentType i)

def arguments (f : Forwarding) : List String :=
  argumentNames f.arity

/-- The definition, on one line. -/
def render (f : Forwarding) : String :=
  "template <" ++ Text.listing f.templateParameters ++ "> T * " ++ function ++
    "(" ++ Text.listing f.parameters ++ ") \x7breturn " ++ Guarded.function ++
    "<" ++ Text.listing f.explicitTypes ++ ">(" ++ Text.listing f.arguments ++ ");\x7d"

def referenceType (f : Forwarding) (i : Nat) : String :=
  (f.constness.bindingAt i).reference (argumentType i)

theorem parameters_eq (f : Forwarding) :
    f.parameters = (List.range f.arity).map fun i => parameter (f.referenceType i) i := by
  apply List.ext_getElem
  · simp [parameters, Constness.bindings, arity]
  · intro i _ _
    simp [parameters, Constness.bindings, referenceType]

theorem explicitTypes_eq (f : Forwarding) :
    f.explicitTypes = constructedType :: (List.range f.arity).map f.referenceType := by
  rw [explicitTypes, List.cons_inj_right]
  apply List.ext_getElem
  · simp [Constness.bindings, arity]
  · intro i _ _
    simp [Constness.bindings, referenceType]

theorem length_parameters (f : Forwarding) : f.parameters.length = f.arity := by
  simp [parameters_eq]

theorem length_explicitTypes (f : Forwarding) : f.explicitTypes.length = f.arity + 1 := by
  simp [explicitTypes_eq]

end Forwarding

end Overloads
