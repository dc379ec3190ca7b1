import Overloads.Header
import Overloads.Proofs.Text.Excerpt

/-!
# Characters of a definition

The names, types and parameters of a definition are made of letters, digits,
blanks and `&`. No bracket, comma or line feed stands inside an item of its
listings, so each listing can be read back (`items_of_listing`).
-/

namespace Overloads

/-! ## Plain texts and items -/

def plain (c : Char) : Bool := c.isAlphanum || c == ' ' || c == '&'

def IsPlain (s : String) : Prop := s.toList.all plain = true

def IsItem (s : String) : Prop := IsPlain s ∧ s ≠ ""

instance (s : String) : Decidable (IsPlain s) :=
  inferInstanceAs (Decidable (s.toList.all plain = true))

instance (s : String) : Decidable (IsItem s) :=
  inferInstanceAs (Decidable (IsPlain s ∧ s ≠ ""))

theorem IsPlain.of_mem {s : String} (h : IsPlain s) {c : Char} (hc : c ∈ s.toList) :
    plain c = true :=
  List.all_eq_true.mp h c hc

theorem IsItem.append {s t : String} (hs : IsItem s) (ht : IsPlain t) : IsItem (s ++ t) := by
  constructor
  · rw [IsPlain, String.toList_append, List.all_append, Bool.and_eq_true]
    exact ⟨hs.1, ht⟩
  · intro he
    exact hs.2 (String.append_eq_empty_iff.mp he).1

theorem IsItem.no_comma {s : String} (h : IsItem s) : ',' ∉ s.toList :=
  fun hc => absurd (h.1.of_mem hc) (by decide)

theorem items_of_listing {xs : List String} (h : ∀ x ∈ xs, IsItem x) :
    Text.items (Text.listing xs).toList = xs :=
  Text.items_listing (fun x hx => (h x hx).2) fun x hx => (h x hx).no_comma

theorem listing_inj {xs ys : List String} (hx : ∀ x ∈ xs, IsItem x) (hy : ∀ y ∈ ys, IsItem y)
    (h : Text.listing xs = Text.listing ys) : xs = ys := by
  rw [← items_of_listing hx, h, items_of_listing hy]

def listed (c : Char) : Bool := plain c || c == ','

theorem not_mem_listing {xs : List String} (h : ∀ x ∈ xs, IsItem x) {d : Char}
    (hd : listed d = false) : d ∉ (Text.listing xs).toList := by
  rw [listed, Bool.or_eq_false_iff, beq_eq_false_iff_ne] at hd
  obtain ⟨hplain, hcomma⟩ := hd
  intro hm
  rcases Text.mem_listing hm with rfl | rfl | ⟨x, hx, hm⟩
  · exact hcomma rfl
  · cases hplain
  · rw [(h x hx).1.of_mem hm] at hplain
    cases hplain

/-! ## Numbers -/

theorem isDigit_of_mem_toString {n : Nat} {c : Char} (hc : c ∈ (toString n).toList) :
    c.isDigit = true := by
  have hc' : c ∈ Nat.toDigits 10 n := Nat.toList_repr (n := n) ▸ hc
  exact Nat.isDigit_of_mem_toDigits (by decide) (by decide) hc'

theorem isPlain_toString (n : Nat) : IsPlain (toString n) := by
  refine List.all_eq_true.mpr fun c hc => ?_
  simp [plain, Char.isAlphanum, isDigit_of_mem_toString hc]

theorem toString_inj {m n : Nat} (h : toString m = toString n) : m = n := by
  have hd : Nat.toDigits 10 m = Nat.toDigits 10 n := by
    rw [← Nat.toList_repr, ← Nat.toList_repr]
    exact congrArg String.toList h
  have hm : Nat.ofDigitChars 10 (Nat.toDigits 10 m) 0 = m := Nat.ofDigitChars_ten_toDigits
  rw [← hm, hd, Nat.ofDigitChars_ten_toDigits]

/-! ## The items of a definition -/

theorem isItem_argumentType (i : Nat) : IsItem (argumentType i) :=
  IsItem.append (by decide) (isPlain_toString i)

theorem isItem_argumentName (i : Nat) : IsItem (argumentName i) :=
  IsItem.append (by decide) (isPlain_toString i)

theorem isItem_typeParameter {type : String} (h : IsPlain type) : IsItem (typeParameter type) :=
  IsItem.append (by decide) h

theorem isItem_parameter {type : String} (h : IsItem type) (i : Nat) : IsItem (parameter type i) :=
  (h.append (by decide)).append (isItem_argumentName i).1

theorem isItem_reference (b : Binding) {type : String} (h : IsItem type) :
    IsItem (b.reference type) := by
  cases b with
  | mutable => exact h.append (by decide)
  | constant => exact (IsItem.append (by decide) h.1).append (by decide)

theorem isItem_of_mem_templateParameters {arity : Nat} :
    ∀ x ∈ templateParameters arity, IsItem x := by
  intro x hx
  rw [templateParameters, List.mem_cons, List.mem_map] at hx
  rcases hx with rfl | ⟨i, -, rfl⟩
  · exact isItem_typeParameter (by decide)
  · exact isItem_typeParameter (isItem_argumentType i).1

theorem isItem_of_mem_argumentNames {arity : Nat} : ∀ x ∈ argumentNames arity, IsItem x := by
  intro x hx
  obtain ⟨i, -, rfl⟩ := List.mem_map.mp hx
  exact isItem_argumentName i

theorem Guarded.isItem_of_mem_parameters (g : Guarded) : ∀ x ∈ g.parameters, IsItem x := by
  intro x hx
  obtain ⟨i, -, rfl⟩ := List.mem_map.mp hx
  exact isItem_parameter (isItem_argumentType i) i

theorem Forwarding.isItem_of_mem_parameters (f : Forwarding) : ∀ x ∈ f.parameters, IsItem x := by
  intro x hx
  rw [f.parameters_eq] at hx
  obtain ⟨i, -, rfl⟩ := List.mem_map.mp hx
  exact isItem_parameter (isItem_reference _ (isItem_argumentType i)) i

theorem Forwarding.isItem_of_mem_explicitTypes (f : Forwarding) :
    ∀ x ∈ f.explicitTypes, IsItem x := by
  intro x hx
  rw [f.explicitTypes_eq, List.mem_cons, List.mem_map] at hx
  rcases hx with rfl | ⟨i, -, rfl⟩
  · decide
  · exact isItem_reference _ (isItem_argumentType i)

end Overloads
