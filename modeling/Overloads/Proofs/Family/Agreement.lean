import Overloads.Proofs.Family.Characters
import Overloads.Proofs.Text.Identifier

/-!
# The two families agree

A forwarding overload spells out the template arguments of the construction it
calls. Putting them in the place of the construction's template parameters
turns its parameters into those of the overload (`instantiate_parameters`), so
each argument arrives bound as it was taken.
-/

namespace Overloads

/-! ## Names that template parameters declare -/

def declaredName (parameter : String) : String :=
  String.ofList (Text.behindLast ' ' parameter.toList)

def standsFor (parameters arguments : List String) (name : String) : String :=
  (((parameters.map declaredName).zip arguments).lookup name).getD name

def instantiate (parameters arguments : List String) (s : String) : String :=
  Text.replace (standsFor parameters arguments) s

theorem isIdentifier_append_toString {s : String} (hs : Text.IsIdentifier s) (n : Nat) :
    Text.IsIdentifier (s ++ toString n) := by
  constructor
  · intro he
    exact hs.1 (String.append_eq_empty_iff.mp he).1
  · rw [String.toList_append, List.all_append, Bool.and_eq_true]
    refine ⟨hs.2, List.all_eq_true.mpr fun c hc => ?_⟩
    simp [Text.inIdentifier, Char.isAlphanum, isDigit_of_mem_toString hc]

theorem isIdentifier_argumentType (i : Nat) : Text.IsIdentifier (argumentType i) :=
  isIdentifier_append_toString (by decide) i

theorem isIdentifier_argumentName (i : Nat) : Text.IsIdentifier (argumentName i) :=
  isIdentifier_append_toString (by decide) i

theorem declaredName_typeParameter {type : String} (h : Text.IsIdentifier type) :
    declaredName (typeParameter type) = type := by
  have hblank : ' ' ∉ type.toList := fun hc => absurd (List.all_eq_true.mp h.2 _ hc) (by decide)
  have hchars : (typeParameter type).toList = "typename".toList ++ ' ' :: type.toList := by
    simp [typeParameter]
  rw [declaredName, hchars, Text.behindLast_append hblank, String.ofList_toList]

theorem map_declaredName (arity : Nat) :
    (templateParameters arity).map declaredName =
      constructedType :: (List.range arity).map argumentType := by
  rw [templateParameters, List.map_cons, declaredName_typeParameter (by decide), List.map_map]
  refine congrArg (constructedType :: ·) (List.map_congr_left ?_)
  intro i _
  exact declaredName_typeParameter (isIdentifier_argumentType i)

theorem argumentType_inj {i j : Nat} (h : argumentType i = argumentType j) : i = j := by
  rw [argumentType, argumentType, String.append_right_inj] at h
  exact toString_inj h

theorem constructedType_ne (i : Nat) : constructedType ≠ argumentType i := by
  intro h
  have hlen := congrArg String.length h
  have hpos : 0 < (toString i).length := Nat.length_repr_pos
  rw [constructedType, argumentType, String.length_append] at hlen
  omega

theorem argumentName_ne_argumentType (i j : Nat) : argumentName i ≠ argumentType j := by
  intro h
  have hchars := congrArg (fun s => s.toList.head?) h
  simp [argumentName, argumentType] at hchars

theorem argumentName_ne_constructedType (i : Nat) : argumentName i ≠ constructedType := by
  intro h
  have hchars := congrArg (fun s => s.toList.head?) h
  simp [argumentName, constructedType] at hchars

theorem nodup_declaredNames (arity : Nat) :
    (constructedType :: (List.range arity).map argumentType).Nodup := by
  rw [List.nodup_cons]
  constructor
  · intro hm
    obtain ⟨i, -, hi⟩ := List.mem_map.mp hm
    exact constructedType_ne i hi.symm
  · exact List.pairwise_map.mpr (List.nodup_range.imp fun hne h => hne (argumentType_inj h))

theorem lookup_zip : ∀ {names arguments : List String} {i : Nat} {name argument : String},
    names.Nodup → names[i]? = some name → arguments[i]? = some argument →
      (names.zip arguments).lookup name = some argument
  | x :: names, b :: arguments, 0, name, argument, _, hn, ha => by
    rw [List.getElem?_cons_zero, Option.some_inj] at hn ha
    rw [List.zip_cons_cons, hn, ha, List.lookup_cons_self]
  | x :: names, b :: arguments, i + 1, name, argument, hd, hn, ha => by
    rw [List.getElem?_cons_succ] at hn ha
    have hne : (name == x) = false := by
      rw [beq_eq_false_iff_ne]
      rintro rfl
      exact (List.nodup_cons.mp hd).1 (List.mem_of_getElem? hn)
    rw [List.zip_cons_cons, List.lookup_cons, hne]
    exact lookup_zip (List.nodup_cons.mp hd).2 hn ha

namespace Forwarding

theorem standsFor_eq (f : Forwarding) (name : String) :
    standsFor f.target.templateParameters f.explicitTypes name =
      (((constructedType :: (List.range f.arity).map argumentType).zip
        f.explicitTypes).lookup name).getD name := by
  rw [standsFor, Guarded.templateParameters, map_declaredName]
  rfl

theorem standsFor_argumentType (f : Forwarding) {i : Nat} (hi : i < f.arity) :
    standsFor f.target.templateParameters f.explicitTypes (argumentType i) = f.referenceType i := by
  have hname : (constructedType :: (List.range f.arity).map argumentType)[i + 1]? =
      some (argumentType i) := by
    simp [hi]
  have hargument : f.explicitTypes[i + 1]? = some (f.referenceType i) := by
    simp [f.explicitTypes_eq, hi]
  rw [standsFor_eq, lookup_zip (nodup_declaredNames f.arity) hname hargument, Option.getD_some]

theorem standsFor_argumentName (f : Forwarding) (i : Nat) :
    standsFor f.target.templateParameters f.explicitTypes (argumentName i) = argumentName i := by
  have hnone : ((constructedType :: (List.range f.arity).map argumentType).zip
      f.explicitTypes).lookup (argumentName i) = none := by
    rw [List.lookup_eq_none_iff]
    rintro ⟨name, argument⟩ hm
    have hmem := (List.of_mem_zip hm).1
    rw [List.mem_cons, List.mem_map] at hmem
    rw [bne_iff_ne]
    rcases hmem with rfl | ⟨j, -, rfl⟩
    · exact argumentName_ne_constructedType i
    · exact argumentName_ne_argumentType i j
  rw [standsFor_eq, hnone, Option.getD_none]

theorem instantiate_parameters (f : Forwarding) :
    f.target.parameters.map (instantiate f.target.templateParameters f.explicitTypes) =
      f.parameters := by
  rw [f.parameters_eq, Guarded.parameters, List.map_map]
  apply List.map_congr_left
  intro i hi
  have hpair := Text.replace_pair (standsFor f.target.templateParameters f.explicitTypes)
    (isIdentifier_argumentType i) (isIdentifier_argumentName i)
  rw [f.standsFor_argumentType (List.mem_range.mp hi), f.standsFor_argumentName i] at hpair
  exact hpair

example : instantiate ["typename T", "typename T0"] ["T", "const T0&"] "T0 t0" = "const T0& t0" := by
  decide

theorem referenceType_eq (f : Forwarding) (i : Nat) :
    f.referenceType i = if f.constness.bits.toNat.testBit i then "const T" ++ toString i ++ "&"
      else "T" ++ toString i ++ "&" := by
  have h := f.constness.bindingAt_eq_constant_iff i
  rw [referenceType, argumentType]
  cases hb : f.constness.bindingAt i with
  | mutable =>
    rw [hb] at h
    rw [if_neg (by simp [← h]), Binding.reference]
  | constant =>
    rw [if_pos (h.mp hb), Binding.reference, ← String.append_assoc]
    rfl

/-- The call of an overload binds every argument at its own position as the overload took it. -/
theorem agrees_with_target (f : Forwarding) :
    f.target.arity = f.arity ∧
    f.templateParameters = f.target.templateParameters ∧
    f.templateParameters.length = f.arity + 1 ∧
    f.arguments = f.target.arguments ∧
    f.arguments = (List.range f.arity).map (fun i => "t" ++ toString i) ∧
    f.explicitTypes.length = f.arity + 1 ∧
    f.explicitTypes.head? = some "T" ∧
    f.target.parameters.map (instantiate f.target.templateParameters f.explicitTypes) =
      f.parameters ∧
    f.target.parameters.length = f.arity ∧
    ∀ i < f.arity,
      f.target.parameters[i]? = some ("T" ++ toString i ++ " t" ++ toString i) ∧
      f.explicitTypes[i + 1]? =
        some (if f.constness.bits.toNat.testBit i then "const T" ++ toString i ++ "&"
          else "T" ++ toString i ++ "&") ∧
      f.parameters[i]? = f.explicitTypes[i + 1]?.map (· ++ " t" ++ toString i) := by
  refine ⟨rfl, rfl, length_templateParameters f.arity, rfl, rfl, f.length_explicitTypes, rfl,
    f.instantiate_parameters, ?_, ?_⟩
  · simp [Guarded.parameters, target]
  · intro i hi
    have hblank : ∀ type : String, parameter type i = type ++ " t" ++ toString i := by
      intro type
      have hjoin : type ++ " " ++ "t" = type ++ " t" := by rw [String.append_assoc]; rfl
      rw [parameter, argumentName, ← String.append_assoc, hjoin]
    refine ⟨?_, ?_, ?_⟩
    · simp [Guarded.parameters, target, hi, hblank, argumentType]
    · simp [f.explicitTypes_eq, hi, f.referenceType_eq]
    · simp [f.explicitTypes_eq, f.parameters_eq, hi, hblank]

end Forwarding

end Overloads
