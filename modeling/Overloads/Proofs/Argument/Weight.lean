import Mathlib.Algebra.BigOperators.Intervals
import Mathlib.Algebra.BigOperators.Ring.Finset
import Overloads.Argument.Cursor

/-!
# How many arguments are constants

An argument list has as many constants as its word has set bits (`toNat_cpop`).
Each bit is set in one half of the words of an arity, since a word and the one
that stands as far from the other end differ in every bit
(`two_mul_sum_testBit`). Half of all arguments are therefore constants
(`two_mul_sum_constants`).
-/

namespace Overloads

def Binding.weight : Binding → Nat
  | .mutable => 0
  | .constant => 1

theorem cpopNatRec_eq_sum {w : Nat} (x : BitVec w) (n : Nat) :
    x.cpopNatRec n 0 = ∑ i ∈ Finset.range n, (x.getLsbD i).toNat := by
  induction n with
  | zero => rfl
  | succ n ih =>
    rw [BitVec.cpopNatRec_succ, BitVec.cpopNatRec_eq, ih, Nat.zero_add, Finset.sum_range_succ]

namespace Constness

theorem weight_bindingAt (c : Constness) (i : Nat) :
    (c.bindingAt i).weight = (c.bits.toNat.testBit i).toNat := by
  have h := c.bindingAt_eq_constant_iff i
  cases hb : c.bindingAt i with
  | mutable =>
    rw [hb] at h
    have hclear : c.bits.toNat.testBit i = false := by simpa using h
    rw [hclear]
    rfl
  | constant =>
    rw [h.mp hb]
    rfl

/-- The set bits of a word are the constants among its arguments. -/
theorem toNat_cpop (c : Constness) :
    c.bits.toBitVec.cpop.toNat = ∑ i ∈ Finset.range c.arity, (c.bindingAt i).weight := by
  have hbit : ∀ i, (c.bits.toBitVec.getLsbD i).toNat = (c.bindingAt i).weight := by
    intro i
    rw [c.weight_bindingAt, ← BitVec.testBit_toNat, UInt32.toNat_toBitVec]
  have hwide : Finset.range c.arity ⊆ Finset.range 32 :=
    Finset.range_subset_range.mpr (Nat.le_of_lt (arity_lt c.arity_le))
  -- the count goes over all 32 bits; those at or beyond the arity are clear
  rw [BitVec.toNat_cpop, cpopNatRec_eq_sum, Finset.sum_congr rfl fun i _ => hbit i]
  refine (Finset.sum_subset hwide ?_).symm
  intro i _ hi
  rw [Finset.mem_range, Nat.not_lt] at hi
  rw [c.weight_bindingAt, c.testBit_of_le hi]
  rfl

end Constness

/-! ## All words of one arity -/

theorem two_mul_sum_testBit {arity i : Nat} (h : i < arity) :
    2 * ∑ word ∈ Finset.range (2 ^ arity), (word.testBit i).toNat = 2 ^ arity := by
  have hmirror := Finset.sum_range_reflect (fun word => (word.testBit i).toNat) (2 ^ arity)
  have hpair : ∀ word ∈ Finset.range (2 ^ arity),
      (word.testBit i).toNat + ((2 ^ arity - 1 - word).testBit i).toNat = 1 := by
    intro word hword
    have hopposite : 2 ^ arity - 1 - word = 2 ^ arity - (word + 1) := by omega
    rw [hopposite, Nat.testBit_two_pow_sub_succ (Finset.mem_range.mp hword)]
    cases word.testBit i <;> simp [h]
  calc 2 * ∑ word ∈ Finset.range (2 ^ arity), (word.testBit i).toNat
      = ∑ word ∈ Finset.range (2 ^ arity), (word.testBit i).toNat +
          ∑ word ∈ Finset.range (2 ^ arity), ((2 ^ arity - 1 - word).testBit i).toNat := by
        rw [hmirror, Nat.two_mul]
    _ = 2 ^ arity := by
        rw [← Finset.sum_add_distrib, Finset.sum_const_nat hpair, Finset.card_range, Nat.mul_one]

/-- The set bits of all words, counted bit by bit. -/
theorem two_mul_sum_bits (arity : Nat) :
    2 * ∑ word ∈ Finset.range (2 ^ arity), ∑ i ∈ Finset.range arity, (word.testBit i).toNat =
      arity * 2 ^ arity := by
  have hhalf : ∀ i ∈ Finset.range arity,
      2 * ∑ word ∈ Finset.range (2 ^ arity), (word.testBit i).toNat = 2 ^ arity := by
    intro i hi
    exact two_mul_sum_testBit (Finset.mem_range.mp hi)
  rw [Finset.sum_comm, Finset.mul_sum, Finset.sum_const_nat hhalf, Finset.card_range]

theorem countP_eq_sum {α : Type} (p : α → Bool) (xs : List α) :
    xs.countP p = (xs.map fun x => (p x).toNat).sum := by
  induction xs with
  | nil => rfl
  | cons x xs ih =>
    rw [List.countP_cons, ih, List.map_cons, List.sum_cons, Nat.add_comm]
    cases p x <;> rfl

namespace Cursor

theorem length_toList_start (arity : Nat) (h : arity ≤ widest) :
    (start arity h).toList.length = 2 ^ arity := by
  have hlength := congrArg List.length (map_bits_toList_start arity h)
  rw [List.length_map, List.length_range] at hlength
  exact hlength

theorem sum_map_toList_start (arity : Nat) (h : arity ≤ widest) (g : Nat → Nat) :
    ((start arity h).toList.map fun c => g c.bits.toNat).sum =
      ∑ word ∈ Finset.range (2 ^ arity), g word := by
  have hwords := congrArg (List.map g) (map_bits_toList_start arity h)
  rw [List.map_map] at hwords
  exact congrArg List.sum hwords

/-- Every argument is a constant in one half of all the ways to bind its list. -/
theorem two_mul_countP_start {arity i : Nat} (h : arity ≤ widest) (hi : i < arity) :
    2 * (start arity h).toList.countP (fun c => c.bindingAt i = .constant) = 2 ^ arity := by
  have hbit : ∀ c ∈ (start arity h).toList,
      (decide (c.bindingAt i = .constant)).toNat = (c.bits.toNat.testBit i).toNat := by
    intro c _
    have hdecide : decide (c.bindingAt i = .constant) = c.bits.toNat.testBit i := by
      rw [Bool.eq_iff_iff, decide_eq_true_iff]
      exact c.bindingAt_eq_constant_iff i
    rw [hdecide]
  rw [countP_eq_sum, List.map_congr_left hbit,
    sum_map_toList_start arity h fun word => (word.testBit i).toNat, two_mul_sum_testBit hi]

/-- The constants of all the ways to bind a list. -/
theorem two_mul_sum_constants (arity : Nat) (h : arity ≤ widest) :
    2 * ((start arity h).toList.map fun c => c.bits.toBitVec.cpop.toNat).sum =
      arity * 2 ^ arity := by
  have hbits : ∀ c ∈ (start arity h).toList, c.bits.toBitVec.cpop.toNat =
      ∑ i ∈ Finset.range arity, (c.bits.toNat.testBit i).toNat := by
    intro c hc
    have harity : c.arity = arity := arity_of_mem_toList _ c hc
    rw [c.toNat_cpop, harity, Finset.sum_congr rfl fun i _ => c.weight_bindingAt i]
  rw [List.map_congr_left hbits, sum_map_toList_start arity h fun word =>
    ∑ i ∈ Finset.range arity, (word.testBit i).toNat, two_mul_sum_bits]

end Cursor

end Overloads
