import Mathlib.Combinatorics.Colex
import Mathlib.Data.Set.Function
import Overloads.Argument.Constness

/-!
# Bindings and the bits that stand for them

The places of the constants in a list of bindings are the set bits of one word
(`testBit_wordOf`). Every list of up to 31 bindings is therefore read off one
constness and no other (`bijOn_bindings`). The words in between come from shifts
that stay below the width of a word (`strictOfBits_eq`, `strictBindingAt_eq`).
-/

namespace Overloads

/-! ## Words -/

theorem Binding.eq_of_constant_iff {b c : Binding} (h : b = .constant ↔ c = .constant) : b = c := by
  cases b <;> cases c <;> simp_all

def constantPlaces (bs : List Binding) : Finset Nat :=
  (Finset.range bs.length).filter fun i => bs[i]? = some .constant

def wordOf (bs : List Binding) : Nat := ∑ i ∈ constantPlaces bs, 2 ^ i

section
variable {bs : List Binding} {i : Nat}

theorem mem_constantPlaces : i ∈ constantPlaces bs ↔ bs[i]? = some .constant := by
  unfold constantPlaces
  rw [Finset.mem_filter, Finset.mem_range]
  constructor
  · intro h
    exact h.2
  · intro h
    obtain ⟨hi, -⟩ := List.getElem?_eq_some_iff.mp h
    exact ⟨hi, h⟩

theorem testBit_wordOf : (wordOf bs).testBit i = true ↔ bs[i]? = some .constant := by
  unfold wordOf
  rw [← Nat.mem_bitIndices, ← List.mem_toFinset, Finset.toFinset_bitIndices_sum_two_pow,
    mem_constantPlaces]

end

theorem wordOf_lt (bs : List Binding) : wordOf bs < combinations bs.length := by
  apply Nat.lt_pow_two_of_testBit
  intro i hi
  rw [← Bool.not_eq_true, testBit_wordOf, List.getElem?_eq_none hi]
  simp

namespace Constness

theorem getElem?_bindings (c : Constness) {i : Nat} (h : i < c.arity) :
    c.bindings[i]? = some (c.bindingAt i) := by
  simp [bindings, h]

theorem getElem?_bindings_eq_constant_iff (c : Constness) (i : Nat) :
    c.bindings[i]? = some .constant ↔ c.bits.toNat.testBit i = true := by
  by_cases h : i < c.arity
  · rw [c.getElem?_bindings h, Option.some_inj, bindingAt_eq_constant_iff]
  · have hi : c.arity ≤ i := Nat.le_of_not_lt h
    rw [List.getElem?_eq_none (by rw [length_bindings]; exact hi), c.testBit_of_le hi]
    simp

theorem wordOf_bindings (c : Constness) : wordOf c.bindings = c.bits.toNat := by
  apply Nat.eq_of_testBit_eq
  intro i
  rw [Bool.eq_iff_iff, testBit_wordOf, getElem?_bindings_eq_constant_iff]

theorem ext_bindings {c d : Constness} (h : c.bindings = d.bindings) : c = d := by
  apply ext
  · rw [← c.length_bindings, h, d.length_bindings]
  · rw [← UInt32.toNat_inj, ← c.wordOf_bindings, h, d.wordOf_bindings]

theorem toNat_wordOf {bs : List Binding} (h : bs.length ≤ widest) :
    (UInt32.ofNat (wordOf bs)).toNat = wordOf bs :=
  UInt32.toNat_ofNat_of_lt' (Nat.lt_trans (wordOf_lt bs) (combinations_lt h))

def ofBindings (bs : List Binding) (h : bs.length ≤ widest) : Constness where
  arity := bs.length
  bits := UInt32.ofNat (wordOf bs)
  arity_le := h
  bits_lt := by rw [toNat_wordOf h]; exact wordOf_lt bs

theorem bindings_ofBindings (bs : List Binding) (h : bs.length ≤ widest) :
    (ofBindings bs h).bindings = bs := by
  apply List.ext_getElem
  · rw [length_bindings]
    rfl
  · intro i hi hi'
    have hconstant : (ofBindings bs h).bindings[i]? = some .constant ↔ bs[i]? = some .constant := by
      rw [getElem?_bindings_eq_constant_iff, ← testBit_wordOf, ← toNat_wordOf h]
      rfl
    rw [List.getElem?_eq_getElem hi, List.getElem?_eq_getElem hi', Option.some_inj,
      Option.some_inj] at hconstant
    exact Binding.eq_of_constant_iff hconstant

theorem ofBits_wordOf (bs : List Binding) (h : bs.length ≤ widest) :
    ofBits bs.length (UInt32.ofNat (wordOf bs)) = .ok (ofBindings bs h) :=
  ofBits_eq_ok_iff.mpr ⟨rfl, rfl⟩

theorem bijOn_bindings {arity : Nat} (h : arity ≤ widest) :
    Set.BijOn bindings {c | ∃ bits, ofBits arity bits = .ok c} {bs | bs.length = arity} := by
  refine ⟨?_, ?_, ?_⟩
  · rintro c ⟨bits, hc⟩
    rw [Set.mem_ofPred_eq, length_bindings, (ofBits_eq_ok_iff.mp hc).1]
  · intro c _ d _ hcd
    exact ext_bindings hcd
  · rintro bs rfl
    exact ⟨ofBindings bs h, ⟨_, ofBits_wordOf bs h⟩, bindings_ofBindings bs h⟩

/-! ## What is accepted -/

theorem exists_ofBits_iff {arity : Nat} {bits : UInt32} :
    (∃ c, ofBits arity bits = .ok c) ↔ arity ≤ widest ∧ bits.toNat < combinations arity := by
  constructor
  · rintro ⟨c, hc⟩
    obtain ⟨rfl, rfl⟩ := ofBits_eq_ok_iff.mp hc
    exact ⟨c.arity_le, c.bits_lt⟩
  · rintro ⟨ha, hb⟩
    exact ⟨⟨arity, bits, ha, hb⟩, ofBits_eq_ok_iff.mpr ⟨rfl, rfl⟩⟩

theorem ofBits_eq_tooWide_iff {arity : Nat} {bits : UInt32} {n limit : Nat} :
    ofBits arity bits = .error (.tooWide n limit) ↔ widest < arity ∧ n = arity ∧ limit = widest := by
  unfold ofBits
  by_cases ha : arity ≤ widest
  · rw [dif_pos ha]
    split <;> simp [ha]
  · rw [dif_neg ha]
    simp [Nat.lt_of_not_le ha, eq_comm]

theorem ofBits_eq_excessBits_iff {arity : Nat} {bits : UInt32} {n : Nat} {m : UInt32} :
    ofBits arity bits = .error (.excessBits n m) ↔
      arity ≤ widest ∧ combinations arity ≤ bits.toNat ∧ n = arity ∧ m = bits := by
  unfold ofBits
  by_cases ha : arity ≤ widest
  · rw [dif_pos ha]
    by_cases hb : bits < ceiling arity ha
    · have hlt : bits.toNat < combinations arity := by
        rw [← toNat_ceiling arity ha]
        exact UInt32.lt_iff_toNat_lt.mp hb
      simp [hb, Nat.not_le.mpr hlt]
    · have hle : combinations arity ≤ bits.toNat := by
        rw [← toNat_ceiling arity ha]
        exact Nat.le_of_not_lt fun hlt => hb (UInt32.lt_iff_toNat_lt.mpr hlt)
      simp [hb, ha, hle, eq_comm]
  · rw [dif_neg ha]
    simp [ha]

/-! ## Shifts -/

/-- One bit moved up by so many places; a move by the whole width or more has no value. -/
def strictBit (places : Nat) : Option UInt32 :=
  if places < 32 then some (1 <<< UInt32.ofNat places) else none

def strictOfBits (arity : Nat) (bits : UInt32) : Option (Except ConstnessError (Nat × UInt32)) :=
  if arity ≤ widest then
    (strictBit arity).map fun stop =>
      if bits < stop then .ok (arity, bits) else .error (.excessBits arity bits)
  else some (.error (.tooWide arity widest))

def strictBindingAt (c : Constness) (i : Nat) : Option Binding :=
  if i < c.arity then
    (strictBit i).map fun b => if c.bits &&& b = 0 then .mutable else .constant
  else some .mutable

theorem strictBit_eq (i : Fin 32) : strictBit i.val = some (bit i) :=
  if_pos i.isLt

theorem strictOfBits_eq (arity : Nat) (bits : UInt32) :
    strictOfBits arity bits = some ((ofBits arity bits).map fun c => (c.arity, c.bits)) := by
  unfold strictOfBits ofBits
  by_cases ha : arity ≤ widest
  · have hstop : strictBit arity = some (ceiling arity ha) := strictBit_eq ⟨arity, arity_lt ha⟩
    rw [if_pos ha, dif_pos ha, hstop]
    by_cases hb : bits < ceiling arity ha <;> simp [hb, Except.map]
  · rw [if_neg ha, dif_neg ha]
    rfl

theorem strictBindingAt_eq (c : Constness) (i : Nat) : strictBindingAt c i = some (c.bindingAt i) := by
  unfold strictBindingAt bindingAt
  by_cases hi : i < c.arity
  · have hbit := strictBit_eq ⟨i, Nat.lt_trans hi (arity_lt c.arity_le)⟩
    rw [if_pos hi, dif_pos hi, hbit]
    rfl
  · rw [if_neg hi, dif_neg hi]

/-- Which bits are accepted, how each place is read, and that the accepted words of an arity are
its lists of bindings, with the sum of the constant places' powers of two leading back. -/
theorem reads_words :
    (∀ (arity : Nat) (bits : UInt32),
      ((∃ c, ofBits arity bits = .ok c) ↔ arity ≤ 31 ∧ bits.toNat < 2 ^ arity) ∧
      (∀ c, ofBits arity bits = .ok c → c.arity = arity ∧ c.bits = bits) ∧
      (∀ n limit, ofBits arity bits = .error (.tooWide n limit) ↔
        31 < arity ∧ n = arity ∧ limit = 31) ∧
      (∀ n m, ofBits arity bits = .error (.excessBits n m) ↔
        arity ≤ 31 ∧ 2 ^ arity ≤ bits.toNat ∧ n = arity ∧ m = bits) ∧
      strictOfBits arity bits = some ((ofBits arity bits).map fun c => (c.arity, c.bits))) ∧
    (∀ (c : Constness) (i : Nat),
      (c.bindingAt i = .constant ↔ c.bits.toNat.testBit i = true) ∧
      strictBindingAt c i = some (c.bindingAt i)) ∧
    ∀ arity ≤ 31,
      Set.BijOn bindings {c | ∃ bits, ofBits arity bits = .ok c} {bs | bs.length = arity} ∧
      (∀ c bits, ofBits arity bits = .ok c →
        ∑ i ∈ constantPlaces c.bindings, 2 ^ i = bits.toNat) ∧
      ∀ bs : List Binding, bs.length = arity →
        ∃ c, ofBits arity (UInt32.ofNat (∑ i ∈ constantPlaces bs, 2 ^ i)) = .ok c ∧
          c.bindings = bs := by
  refine ⟨?_, ?_, ?_⟩
  · intro arity bits
    exact ⟨exists_ofBits_iff, fun c hc => ofBits_eq_ok_iff.mp hc,
      fun _ _ => ofBits_eq_tooWide_iff, fun _ _ => ofBits_eq_excessBits_iff,
      strictOfBits_eq arity bits⟩
  · intro c i
    exact ⟨c.bindingAt_eq_constant_iff i, strictBindingAt_eq c i⟩
  · intro arity ha
    refine ⟨bijOn_bindings ha, ?_, ?_⟩
    · intro c bits hc
      rw [← (ofBits_eq_ok_iff.mp hc).2]
      exact c.wordOf_bindings
    · rintro bs rfl
      exact ⟨ofBindings bs ha, ofBits_wordOf bs ha, bindings_ofBindings bs ha⟩

/-- The widest list with a constant at its last place only is read off the word `2 ^ 30`. -/
theorem reads_widest_word : 31 ≤ 31 ∧ ∃ c,
    ofBits 31 (UInt32.ofNat (2 ^ 30)) = .ok c ∧
      c.bindings = List.replicate 30 .mutable ++ [.constant] := by
  obtain ⟨-, -, hread⟩ := reads_words
  obtain ⟨-, -, hback⟩ := hread 31 (by decide)
  have hplaces : constantPlaces (List.replicate 30 .mutable ++ [.constant]) = {30} := by decide
  have hsum := hback (List.replicate 30 .mutable ++ [.constant]) (by decide)
  rw [hplaces, Finset.sum_singleton] at hsum
  exact ⟨by decide, hsum⟩

end Constness

end Overloads
