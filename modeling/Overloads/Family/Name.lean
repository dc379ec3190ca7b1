/-!
# Names in a definition

Argument `i` has the type `Ti` and the name `ti`; the constructed type is `T`.
-/

namespace Overloads

def constructedType : String := "T"

def argumentType (i : Nat) : String := "T" ++ toString i

def argumentName (i : Nat) : String := "t" ++ toString i

def typeParameter (type : String) : String := "typename " ++ type

def templateParameters (arity : Nat) : List String :=
  typeParameter constructedType ::
    (List.range arity).map fun i => typeParameter (argumentType i)

def argumentNames (arity : Nat) : List String :=
  (List.range arity).map argumentName

def parameter (type : String) (i : Nat) : String := type ++ " " ++ argumentName i

theorem length_templateParameters (arity : Nat) :
    (templateParameters arity).length = arity + 1 := by
  simp [templateParameters]

theorem length_argumentNames (arity : Nat) : (argumentNames arity).length = arity := by
  simp [argumentNames]

end Overloads
