import Mathlib.Algebra.Group.Nat.Defs
import Overloads.Header

/-!
# The overloads of a header

Below its limit a header has every arity, and for each arity every word: the
overloads are those of all pairs of an arity and a word, in order
(`map_key_overloads`).
-/

namespace Overloads

def pairs (limit : Nat) : List (Nat × Nat) :=
  (List.range limit).flatMap fun arity => (List.range (2 ^ arity)).map fun word => (arity, word)

def Forwarding.key (f : Forwarding) : Nat × Nat := (f.arity, f.constness.bits.toNat)

theorem pairs_succ (limit : Nat) :
    pairs (limit + 1) = pairs limit ++ (List.range (2 ^ limit)).map fun word => (limit, word) := by
  simp [pairs, List.range_succ]

theorem length_pairs (limit : Nat) : (pairs limit).length = 2 ^ limit - 1 := by
  induction limit with
  | zero => rfl
  | succ n ih =>
    have hpos : 0 < 2 ^ n := Nat.two_pow_pos n
    rw [pairs_succ, List.length_append, ih, List.length_map, List.length_range, Nat.pow_succ]
    omega

theorem mem_pairs {limit : Nat} {p : Nat × Nat} : p ∈ pairs limit ↔ p.1 < limit ∧ p.2 < 2 ^ p.1 := by
  obtain ⟨arity, word⟩ := p
  simp only [pairs, List.mem_flatMap, List.mem_map, List.mem_range, Prod.mk.injEq]
  constructor
  · rintro ⟨a, ha, w, hw, rfl, rfl⟩
    exact ⟨ha, hw⟩
  · rintro ⟨ha, hw⟩
    exact ⟨arity, ha, word, hw, rfl, rfl⟩

theorem nodup_pairs (limit : Nat) : (pairs limit).Nodup := by
  rw [pairs, List.Nodup, List.pairwise_flatMap]
  constructor
  · intro arity _
    exact List.pairwise_map.mpr (List.nodup_range.imp fun hne h => hne (Prod.mk.inj h).2)
  · refine List.nodup_range.imp fun {a b} hne x hx y hy h => hne ?_
    obtain ⟨_, -, rfl⟩ := List.mem_map.mp hx
    obtain ⟨_, -, rfl⟩ := List.mem_map.mp hy
    exact (Prod.mk.inj h).1

theorem map_key_toList_start (arity : Nat) (h : arity ≤ widest) :
    (Cursor.start arity h).toList.map (fun x => Forwarding.key ⟨x⟩) =
      (List.range (2 ^ arity)).map fun word => (arity, word) := by
  have hwords := Cursor.map_bits_toList_start arity h
  have hrange : List.range (2 ^ arity) = List.range (combinations arity) := rfl
  rw [hrange, ← hwords, List.map_map]
  apply List.map_congr_left
  intro x hx
  exact congrArg (·, x.bits.toNat) (Cursor.arity_of_mem_toList _ x hx)

theorem map_key_cursors : ∀ (arities : List Nat), (∀ a ∈ arities, a ≤ widest) →
    ((arities.filterMap fun arity => (Cursor.start? arity).toOption).flatMap Cursor.toList).map
        (fun x => Forwarding.key ⟨x⟩) =
      arities.flatMap fun arity => (List.range (2 ^ arity)).map fun word => (arity, word)
  | [], _ => rfl
  | a :: arities, h => by
    have ha : a ≤ widest := h a (by simp)
    have hstart : (Cursor.start? a).toOption = some (Cursor.start a ha) := by
      rw [Cursor.start?, dif_pos ha]
      rfl
    simp only [List.filterMap_cons, hstart]
    rw [List.flatMap_cons, List.map_append, List.flatMap_cons, map_key_toList_start,
      map_key_cursors arities fun b hb => h b (List.mem_cons_of_mem a hb)]

namespace Limits

theorem map_key_overloads (l : Limits) : l.overloads.map Forwarding.key = pairs l.forwarding := by
  rw [overloads, List.map_map]
  apply map_key_cursors
  intro a ha
  have hlimit := l.forwarding_le
  have hlt := List.mem_range.mp ha
  omega

theorem length_overloads (l : Limits) : l.overloads.length = 2 ^ l.forwarding - 1 := by
  rw [← length_pairs, ← l.map_key_overloads, List.length_map]

theorem nodup_overloads (l : Limits) : l.overloads.Nodup := by
  have h := nodup_pairs l.forwarding
  rw [← l.map_key_overloads] at h
  exact (List.pairwise_map.mp h).imp fun hne he => hne (congrArg _ he)

theorem arity_of_mem_overloads {l : Limits} {f : Forwarding} (hf : f ∈ l.overloads) :
    f.arity < l.forwarding := by
  have hkey : f.key ∈ pairs l.forwarding := by
    rw [← l.map_key_overloads]
    exact List.mem_map_of_mem hf
  exact (mem_pairs.mp hkey).1

theorem mem_constructions {l : Limits} {g : Guarded} :
    g ∈ l.constructions ↔ g.arity < l.guarded := by
  rw [constructions, List.mem_map]
  constructor
  · rintro ⟨a, ha, rfl⟩
    exact List.mem_range.mp ha
  · intro h
    exact ⟨g.arity, List.mem_range.mpr h, rfl⟩

end Limits

end Overloads
