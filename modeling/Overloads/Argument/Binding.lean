/-!
# How an argument is bound

A forwarded argument is taken by reference, either mutable or constant.
-/

namespace Overloads

/-- How the reference to one argument is bound. -/
inductive Binding where
  /-- `T&`. -/
  | mutable
  /-- `const T&`. -/
  | constant
deriving DecidableEq, Repr

def Binding.reference : Binding → String → String
  | .mutable, type => type ++ "&"
  | .constant, type => "const " ++ type ++ "&"

/-- The two ways to bind a value differ in their reference types. -/
theorem Binding.reference_inj {b c : Binding} {type : String}
    (h : b.reference type = c.reference type) : b = c := by
  have hlen := congrArg String.length h
  cases b <;> cases c
  · rfl
  · simp [Binding.reference] at hlen
  · simp [Binding.reference] at hlen
  · rfl

end Overloads
