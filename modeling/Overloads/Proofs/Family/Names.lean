import Overloads.Proofs.Family.Agreement
import Overloads.Proofs.Text.Scope

/-!
# Names in the items of a definition

A template parameter declares its type, and a parameter of a function declares its
argument behind uses of its type. None of these names is a word that stands in
every definition (`argumentType_not_fixed`, `argumentName_not_fixed`), and no two
of them are the same (`nodup_names`).
-/

namespace Overloads

open Text

/-! ## Names and words -/

def directiveWords : List String :=
  ["ifdef", "WIN32", "pragma", "warning", "push", "disable", "pop", "endif"]

def fixedNames : List String :=
  [Guarded.function, Forwarding.function, Guarded.guardType, "allocate", "finalize"]

/-- Words of a definition that it does not declare. -/
def fixedWords : List String := keywords ++ directiveWords ++ fixedNames

def typeNames (arity : Nat) : List String := constructedType :: (List.range arity).map argumentType

def guardName : String := "m"

theorem argumentType_not_fixed (i : Nat) : argumentType i ∉ fixedWords := by
  have hfixed : ∀ w ∈ fixedWords, w.toList.head? ≠ some 'T' := by decide
  intro h
  apply hfixed _ h
  simp [argumentType]

theorem argumentName_not_fixed (i : Nat) : argumentName i ∉ fixedWords := by
  have hfixed : ∀ w ∈ fixedWords, w.toList.head? = some 't' →
      (w.toList.drop 1).head?.any Char.isDigit = false := by decide
  have hdigit : ((argumentName i).toList.drop 1).head?.any Char.isDigit = true := by
    have hdrop : (argumentName i).toList.drop 1 = (toString i).toList := by simp [argumentName]
    rw [hdrop]
    cases hi : (toString i).toList with
    | nil =>
      have hpos : 0 < (toString i).length := Nat.length_repr_pos
      rw [← String.length_toList, hi] at hpos
      cases hpos
    | cons c cs => exact isDigit_of_mem_toString (hi ▸ List.mem_cons_self)
  intro h
  have hnot := hfixed _ h (by simp [argumentName])
  rw [hdigit] at hnot
  cases hnot

theorem argumentName_inj {i j : Nat} (h : argumentName i = argumentName j) : i = j := by
  rw [argumentName, argumentName, String.append_right_inj] at h
  exact toString_inj h

theorem guardName_ne_argumentType (i : Nat) : guardName ≠ argumentType i := by
  intro h
  have hchars := congrArg (fun s => s.toList.head?) h
  simp [guardName, argumentType] at hchars

theorem guardName_ne_argumentName (i : Nat) : guardName ≠ argumentName i := by
  intro h
  have hchars := congrArg (fun s => s.toList.head?) h
  simp [guardName, argumentName] at hchars

theorem nodup_argumentNames (arity : Nat) : (argumentNames arity).Nodup :=
  List.pairwise_map.mpr (List.nodup_range.imp fun hne h => hne (argumentName_inj h))

theorem nodup_names (arity : Nat) :
    (typeNames arity ++ argumentNames arity ++ [guardName]).Nodup := by
  rw [List.nodup_append, List.nodup_append]
  refine ⟨⟨nodup_declaredNames arity, nodup_argumentNames arity, ?_⟩, by simp, ?_⟩
  · rintro x hx y hy rfl
    obtain ⟨i, -, rfl⟩ := List.mem_map.mp hy
    rw [typeNames, List.mem_cons, List.mem_map] at hx
    rcases hx with hx | ⟨j, -, hx⟩
    · exact argumentName_ne_constructedType i hx
    · exact argumentName_ne_argumentType i j hx.symm
  · rintro x hx y hy rfl
    rw [List.mem_singleton] at hy
    subst hy
    rw [List.mem_append, typeNames, List.mem_cons, List.mem_map] at hx
    rcases hx with (hx | ⟨i, -, hx⟩) | hx
    · exact absurd hx (by decide)
    · exact guardName_ne_argumentType i hx.symm
    · obtain ⟨i, -, hx⟩ := List.mem_map.mp hx
      exact guardName_ne_argumentName i hx.symm

/-! ## Tokens of items -/

theorem isName_argumentType (i : Nat) : isName (argumentType i) = true := by
  simp [isName, argumentType]

theorem isName_argumentName (i : Nat) : isName (argumentName i) = true := by
  simp [isName, argumentName]

theorem tokens_typeParameter {type : String} (h : IsIdentifier type) :
    tokens (typeParameter type) = [.word "typename", .word type] := by
  have hfront : tokens "typename " = [.word "typename"] := by decide
  unfold typeParameter
  rw [tokens_append_left (by decide), hfront, tokens_of_isIdentifier h]
  rfl

theorem tokens_argumentName (i : Nat) : tokens (argumentName i) = [.word (argumentName i)] :=
  tokens_of_isIdentifier (isIdentifier_argumentName i)

theorem tokens_parameter (type : String) (i : Nat) :
    tokens (parameter type i) = tokens type ++ [.word (argumentName i)] := by
  have hblank : tokens " " = [] := by decide
  unfold parameter
  rw [String.append_assoc, tokens_between (by decide) (by decide), hblank, tokens_argumentName]
  rfl

def referenceWords : Binding → String → List String
  | .mutable, type => [type]
  | .constant, type => ["const", type]

theorem tokens_reference (b : Binding) {type : String} (h : IsIdentifier type) :
    tokens (b.reference type) = (referenceWords b type).map .word ++ [.mark '&'] := by
  have hmark : tokens "&" = [.mark '&'] := by decide
  have hconst : tokens "const " = [.word "const"] := by decide
  cases b with
  | mutable =>
    unfold Binding.reference
    rw [tokens_append_right (by decide), hmark, tokens_of_isIdentifier h]
    rfl
  | constant =>
    unfold Binding.reference
    rw [tokens_around (by decide) (by decide), hmark, hconst, tokens_of_isIdentifier h]
    rfl

/-! ## Names in items -/

theorem occurrencesIn_typeParameter {type : String} (h : IsIdentifier type)
    (hname : isName type = true) : ∀ b ∈ ['<', ','], ∀ a ∈ ['>', ','],
      occurrencesIn (.mark b) (.mark a) (tokens (typeParameter type)) =
        ["typename"].map use ++ [declaration type] := by
  intro b hb a _
  have hkeyword : isName "typename" = true := by decide
  rw [tokens_typeParameter h]
  simp at hb
  rcases hb with rfl | rfl <;>
    simp [occurrencesIn, occurrence, hkeyword, hname, declaresBetween, endsType, firstOr, use,
      declaration]

theorem occurrencesIn_referenceWords (k : Binding) {type : String} (hname : isName type = true) :
    ∀ b ∈ ['<', '(', ','], occurrencesIn (.mark b) (.mark '&') ((referenceWords k type).map .word) =
      (referenceWords k type).map use := by
  intro b hb
  have hconst : isName "const" = true := by decide
  simp at hb
  cases k <;> rcases hb with rfl | rfl | rfl <;>
    simp [referenceWords, occurrencesIn, occurrence, hconst, hname, declaresBetween, endsType,
      endsDeclarator, firstOr, use]

theorem occurrencesIn_reference (k : Binding) (i : Nat) (next : Token) : ∀ b ∈ ['<', '(', ','],
    occurrencesIn (.mark b) next (tokens (k.reference (argumentType i))) =
      (referenceWords k (argumentType i)).map use := by
  intro b hb
  rw [tokens_reference k (isIdentifier_argumentType i), occurrencesIn_append_mark,
    occurrencesIn_referenceWords k (isName_argumentType i) b hb]
  simp [occurrencesIn]

theorem endsType_argumentType (i : Nat) : endsType (.word (argumentType i)) = true := by
  have hkeyword : argumentType i ∉ keywords := by
    intro h
    apply argumentType_not_fixed i
    simp [fixedWords, h]
  simp [endsType, isName_argumentType, hkeyword]

/-- The name of an argument behind the end of a type. -/
theorem occurrencesIn_argumentName {prev : Token} (hprev : endsType prev = true) (i : Nat) :
    ∀ a ∈ [')', ','], occurrencesIn prev (.mark a) [.word (argumentName i)] =
      [declaration (argumentName i)] := by
  intro a ha
  simp at ha
  rcases ha with rfl | rfl <;>
    simp [occurrencesIn, occurrence, isName_argumentName, declaresBetween, hprev, endsDeclarator,
      firstOr, declaration]

theorem occurrencesIn_parameter (i : Nat) : ∀ b ∈ ['(', ','], ∀ a ∈ [')', ','],
    occurrencesIn (.mark b) (.mark a) (tokens (parameter (argumentType i) i)) =
      [argumentType i].map use ++ [declaration (argumentName i)] := by
  intro b hb a ha
  have hfirst : declaresBetween (.mark b) (.word (argumentName i)) = false := by
    simp at hb
    rcases hb with rfl | rfl <;> simp [declaresBetween, endsType]
  rw [tokens_parameter, tokens_of_isIdentifier (isIdentifier_argumentType i), List.singleton_append,
    occurrencesIn, occurrencesIn_argumentName (endsType_argumentType i) i a ha]
  simp [occurrence, isName_argumentType, firstOr, hfirst, use]

theorem occurrencesIn_referenceParameter (k : Binding) (i : Nat) :
    ∀ b ∈ ['(', ','], ∀ a ∈ [')', ','],
      occurrencesIn (.mark b) (.mark a) (tokens (parameter (k.reference (argumentType i)) i)) =
        (referenceWords k (argumentType i)).map use ++ [declaration (argumentName i)] := by
  intro b hb a ha
  have hb' : b ∈ ['<', '(', ','] := List.mem_cons_of_mem _ hb
  rw [tokens_parameter, tokens_reference k (isIdentifier_argumentType i), List.append_assoc,
    List.singleton_append, occurrencesIn_append_mark,
    occurrencesIn_referenceWords k (isName_argumentType i) b hb',
    occurrencesIn_argumentName (by decide) i a ha]

theorem occurrencesIn_argument (i : Nat) : ∀ b ∈ ['(', ','], ∀ a ∈ [')', ','],
    occurrencesIn (.mark b) (.mark a) (tokens (argumentName i)) = [use (argumentName i)] := by
  intro b hb a _
  rw [tokens_argumentName]
  simp at hb
  rcases hb with rfl | rfl <;>
    simp [occurrencesIn, occurrence, isName_argumentName, declaresBetween, endsType, use]

/-! ## Names in listings -/

theorem occurrencesIn_templateParameters (arity : Nat) :
    occurrencesIn (.mark '<') (.mark '>') (tokens (listing (templateParameters arity))) =
      (typeNames arity).flatMap fun type => ["typename"].map use ++ [declaration type] := by
  have hparameters : templateParameters arity = (typeNames arity).map typeParameter := by
    simp [templateParameters, typeNames]
  rw [hparameters]
  apply occurrencesIn_listing
  intro type htype
  rw [typeNames, List.mem_cons, List.mem_map] at htype
  rcases htype with rfl | ⟨i, -, rfl⟩
  · exact occurrencesIn_typeParameter (by decide) (by decide)
  · exact occurrencesIn_typeParameter (isIdentifier_argumentType i) (isName_argumentType i)

theorem occurrencesIn_argumentNames (arity : Nat) :
    occurrencesIn (.mark '(') (.mark ')') (tokens (listing (argumentNames arity))) =
      (argumentNames arity).map use := by
  have hlisting : occurrencesIn (.mark '(') (.mark ')') (tokens (listing (argumentNames arity))) =
      (List.range arity).flatMap fun i => [use (argumentName i)] :=
    occurrencesIn_listing fun i _ => occurrencesIn_argument i
  rw [hlisting, argumentNames, List.map_map, List.map_eq_flatMap]
  rfl

end Overloads
