import Overloads.Proofs.Header.Enumeration

/-!
# The index of an overload

The overloads of an arity stand behind those of all smaller ones, so they begin
at index `2 ^ arity - 1`. One more than an index therefore begins with the bit
of its arity and goes on with the bits of its word (`pairs_eq_map_place`).
-/

namespace Overloads

def place (index : Nat) : Nat × Nat :=
  (Nat.log2 (index + 1), index + 1 - 2 ^ Nat.log2 (index + 1))

theorem place_eq_iff {index arity word : Nat} :
    place index = (arity, word) ↔ word < 2 ^ arity ∧ index = 2 ^ arity - 1 + word := by
  have hpos : 0 < 2 ^ arity := Nat.two_pow_pos arity
  have hlog : Nat.log2 (index + 1) = arity ↔ 2 ^ arity ≤ index + 1 ∧ index + 1 < 2 ^ (arity + 1) :=
    Nat.log2_eq_iff (by omega)
  rw [Nat.pow_succ] at hlog
  unfold place
  rw [Prod.mk.injEq]
  constructor
  · rintro ⟨ha, hw⟩
    obtain ⟨hle, hlt⟩ := hlog.mp ha
    rw [ha] at hw
    omega
  · rintro ⟨hw, rfl⟩
    have ha := hlog.mpr (by omega)
    refine ⟨ha, ?_⟩
    rw [ha]
    omega

theorem place_fst_lt_iff {index limit : Nat} : (place index).1 < limit ↔ index < 2 ^ limit - 1 := by
  have hlog : Nat.log2 (index + 1) < limit ↔ index + 1 < 2 ^ limit := Nat.log2_lt (by omega)
  have hpos : 0 < 2 ^ limit := Nat.two_pow_pos limit
  rw [place, hlog]
  omega

theorem pairs_eq_map_place (limit : Nat) : pairs limit = (List.range (2 ^ limit - 1)).map place := by
  induction limit with
  | zero => rfl
  | succ n ih =>
    have hpos : 0 < 2 ^ n := Nat.two_pow_pos n
    have hsplit : 2 ^ (n + 1) - 1 = (2 ^ n - 1) + 2 ^ n := by rw [Nat.pow_succ]; omega
    rw [pairs_succ, ih, hsplit, List.range_add, List.map_append, List.map_map]
    refine congrArg _ (List.map_congr_left ?_)
    intro word hword
    exact (place_eq_iff.mpr ⟨List.mem_range.mp hword, rfl⟩).symm

theorem map_range_part {α : Type} (f : Nat → α) (n skipped taken : Nat) :
    (((List.range n).map f).drop skipped).take taken =
      (List.range' skipped (min (skipped + taken) n - skipped)).map f := by
  rw [← List.map_drop, ← List.map_take, List.range_eq_range', List.drop_range']
  by_cases h : n - skipped ≤ taken
  · have hlen : min (skipped + taken) n - skipped = n - skipped := by omega
    rw [List.take_range'_of_length_le h, hlen]
    simp
  · have hlen : min (skipped + taken) n - skipped = taken := by omega
    rw [List.take_range'_of_length_ge (by omega), hlen]
    simp

namespace Limits

theorem map_key_overloads_place (l : Limits) :
    l.overloads.map Forwarding.key = (List.range (2 ^ l.forwarding - 1)).map place := by
  rw [l.map_key_overloads, pairs_eq_map_place]

theorem getElem?_overloads (l : Limits) (index : Nat) :
    (l.overloads[index]?).map Forwarding.key =
      if index < 2 ^ l.forwarding - 1 then some (place index) else none := by
  rw [← List.getElem?_map, map_key_overloads_place, List.getElem?_map]
  by_cases h : index < 2 ^ l.forwarding - 1
  · simp [h]
  · simp [h]

theorem key_getElem?_overloads_iff {l : Limits} {index arity word : Nat} :
    (l.overloads[index]?).map Forwarding.key = some (arity, word) ↔
      arity < l.forwarding ∧ word < 2 ^ arity ∧ index = 2 ^ arity - 1 + word := by
  rw [getElem?_overloads, ← place_eq_iff]
  constructor
  · intro h
    by_cases hi : index < 2 ^ l.forwarding - 1
    · rw [if_pos hi, Option.some_inj] at h
      refine ⟨?_, h⟩
      rw [← place_fst_lt_iff, h] at hi
      exact hi
    · rw [if_neg hi] at h
      cases h
  · rintro ⟨ha, hp⟩
    rw [if_pos (place_fst_lt_iff.mp (by rw [hp]; exact ha)), hp]

/-- Which overload stands at an index, at which index a given overload stands, and what is left
of the sequence when some are passed over and some taken. -/
theorem overload_at_index (l : Limits) :
    l.overloads.length = 2 ^ l.forwarding - 1 ∧
    (∀ index < 2 ^ l.forwarding - 1, ∃ f, l.overloads[index]? = some f ∧
      f.arity = Nat.log2 (index + 1) ∧
      f.constness.bits.toNat = index + 1 - 2 ^ Nat.log2 (index + 1)) ∧
    (∀ index arity word,
      (∃ f, l.overloads[index]? = some f ∧ f.arity = arity ∧ f.constness.bits.toNat = word) ↔
        arity < l.forwarding ∧ word < 2 ^ arity ∧ index = 2 ^ arity - 1 + word) ∧
    ∀ skipped taken,
      ((l.overloads.drop skipped).take taken).map Forwarding.key =
        (List.range' skipped (min (skipped + taken) (2 ^ l.forwarding - 1) - skipped)).map place := by
  refine ⟨l.length_overloads, ?_, ?_, ?_⟩
  · intro index hindex
    have hkey := l.getElem?_overloads index
    rw [if_pos hindex] at hkey
    obtain ⟨f, hf, hplace⟩ := Option.map_eq_some_iff.mp hkey
    obtain ⟨harity, hword⟩ := Prod.mk.inj hplace
    exact ⟨f, hf, harity, hword⟩
  · intro index arity word
    rw [← key_getElem?_overloads_iff, Option.map_eq_some_iff]
    simp only [Forwarding.key, Prod.mk.injEq]
  · intro skipped taken
    rw [List.map_take, List.map_drop, map_key_overloads_place, map_range_part]

/-- The last of the widest limit's overloads binds 31 constants. -/
theorem overload_at_last_index : 2 ^ 32 - 2 < 2 ^ (Limits.mk 20 32).forwarding - 1 ∧
    ∃ f, (Limits.mk 20 32).overloads[2 ^ 32 - 2]? = some f ∧ f.arity = 31 ∧
      f.constness.bits.toNat = 2 ^ 31 - 1 := by
  obtain ⟨-, hat, -⟩ := overload_at_index (Limits.mk 20 32)
  exact ⟨by decide, hat (2 ^ 32 - 2) (by decide)⟩

end Limits

end Overloads
