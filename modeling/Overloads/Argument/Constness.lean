import Overloads.Argument.Binding

/-!
# Constness of an argument list

For each of at most 31 arguments, a word of bits says how the argument is
bound: bit `i` set binds argument `i` as a constant. Bits at or beyond the
arity are never set, so the words of an arity are those below its number of
`combinations` (`bindingAt_eq_constant_iff` reads the bits back).
-/

namespace Overloads

/-- In how many ways so many arguments can be bound: there are two for each. -/
def combinations (arity : Nat) : Nat := Nat.pow 2 arity

theorem combinations_le {m n : Nat} (h : m ≤ n) : combinations m ≤ combinations n :=
  Nat.pow_le_pow_right (by decide) h

/-- The 32-bit word whose only set bit is bit `i`. -/
def bit (i : Fin 32) : UInt32 :=
  1 <<< UInt32.ofNat i.val

theorem toNat_bit (i : Fin 32) : (bit i).toNat = combinations i.val := by
  revert i; decide

/-- The largest arity whose words all fit below one bit of 32. -/
def widest : Nat := 31

/-- Words of up to this arity, and the first one beyond, fit in 32 bits. -/
theorem combinations_lt {arity : Nat} (h : arity ≤ widest) : combinations arity < UInt32.size :=
  Nat.lt_of_le_of_lt (combinations_le h) (by decide)

inductive ConstnessError where
  | tooWide (arity limit : Nat)
  | excessBits (arity : Nat) (bits : UInt32)
deriving DecidableEq, Repr

/-- How each argument of one list is bound. -/
structure Constness where
  arity : Nat
  bits : UInt32
  arity_le : arity ≤ widest
  bits_lt : bits.toNat < combinations arity
deriving DecidableEq

namespace Constness

theorem arity_lt {arity : Nat} (h : arity ≤ widest) : arity < 32 :=
  Nat.lt_of_le_of_lt h (by decide)

/-- The first word that is too large for the arity. -/
def ceiling (arity : Nat) (h : arity ≤ widest) : UInt32 :=
  bit ⟨arity, arity_lt h⟩

theorem toNat_ceiling (arity : Nat) (h : arity ≤ widest) :
    (ceiling arity h).toNat = combinations arity :=
  toNat_bit _

/-- The constness with these bits; too wide a list is refused before its bits are looked at. -/
def ofBits (arity : Nat) (bits : UInt32) : Except ConstnessError Constness :=
  if h : arity ≤ widest then
    if hb : bits < ceiling arity h then
      .ok ⟨arity, bits, h, by rw [← toNat_ceiling arity h]; exact UInt32.lt_iff_toNat_lt.mp hb⟩
    else .error (.excessBits arity bits)
  else .error (.tooWide arity widest)

/-- How argument `i` is bound; there is nothing constant past the last argument. -/
def bindingAt (c : Constness) (i : Nat) : Binding :=
  if h : i < c.arity then
    if c.bits &&& bit ⟨i, Nat.lt_trans h (arity_lt c.arity_le)⟩ = 0 then .mutable else .constant
  else .mutable

def bindings (c : Constness) : List Binding :=
  (List.range c.arity).map c.bindingAt

@[ext] theorem ext {c d : Constness} (ha : c.arity = d.arity) (hb : c.bits = d.bits) : c = d := by
  cases c; cases d; cases ha; cases hb; rfl

theorem ofBits_eq_ok_iff {arity : Nat} {bits : UInt32} {c : Constness} :
    ofBits arity bits = .ok c ↔ c.arity = arity ∧ c.bits = bits := by
  constructor
  · intro h
    unfold ofBits at h
    split at h
    · split at h
      · cases h; exact ⟨rfl, rfl⟩
      · cases h
    · cases h
  · rintro ⟨rfl, rfl⟩
    have hb : c.bits < ceiling c.arity c.arity_le :=
      UInt32.lt_iff_toNat_lt.mpr (by rw [toNat_ceiling]; exact c.bits_lt)
    simp [ofBits, c.arity_le, hb]

theorem and_bit_eq_zero_iff (bits : UInt32) (i : Fin 32) :
    bits &&& bit i = 0 ↔ bits.toNat.testBit i.val = false := by
  rw [← UInt32.toNat_inj, UInt32.toNat_and, toNat_bit, UInt32.toNat_zero, combinations,
    Nat.pow_eq]
  constructor
  · intro h
    have := congrArg (fun n : Nat => n.testBit i.val) h
    simpa [Nat.testBit_and, Nat.testBit_two_pow] using this
  · intro h
    apply Nat.eq_of_testBit_eq
    intro j
    rw [Nat.testBit_and, Nat.testBit_two_pow, Nat.zero_testBit]
    by_cases hj : i.val = j
    · subst hj; simp [h]
    · simp [hj]

/-- Bits at or beyond the arity are never set. -/
theorem testBit_of_le (c : Constness) {i : Nat} (h : c.arity ≤ i) :
    c.bits.toNat.testBit i = false :=
  Nat.testBit_lt_two_pow (Nat.lt_of_lt_of_le c.bits_lt (combinations_le h))

theorem bindingAt_eq_constant_iff (c : Constness) (i : Nat) :
    c.bindingAt i = .constant ↔ c.bits.toNat.testBit i = true := by
  unfold bindingAt
  split
  · next h =>
    have := and_bit_eq_zero_iff c.bits ⟨i, Nat.lt_trans h (arity_lt c.arity_le)⟩
    split <;> simp_all
  · next h => simp [c.testBit_of_le (Nat.le_of_not_lt h)]

/-- The word of a constness is determined by how it binds each argument. -/
theorem eq_of_bindingAt {c d : Constness} (ha : c.arity = d.arity)
    (h : ∀ i < c.arity, c.bindingAt i = d.bindingAt i) : c = d := by
  apply ext ha
  rw [← UInt32.toNat_inj]
  apply Nat.eq_of_testBit_eq
  intro i
  rcases Nat.lt_or_ge i c.arity with hi | hi
  · rw [Bool.eq_iff_iff, ← bindingAt_eq_constant_iff, ← bindingAt_eq_constant_iff, h i hi]
  · rw [c.testBit_of_le hi, d.testBit_of_le (ha ▸ hi)]

theorem length_bindings (c : Constness) : c.bindings.length = c.arity := by
  simp [bindings]

end Constness

end Overloads
