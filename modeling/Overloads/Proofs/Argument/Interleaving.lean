import Mathlib.Algebra.Group.Nat.Defs
import Overloads.Argument.Cursor

/-!
# Cursors asked in any order

A cursor stands for the list of what is still to come, and each request takes
from that list (`perform_eq`). In a family that grows by copies, the place of a
cursor depends on what it and its originals have been asked, and on nothing
else (`toList_of_family`). Of the steps that a family has gone through the latest stands first.
-/

namespace Overloads.Cursor

/-! ## Requests to a list -/

def request (xs : List Constness) : Request → Answer × List Constness
  | .next => (.item xs.head?, xs.tail)
  | .nth n => (.item xs[n]?, xs.drop (n + 1))
  | .take n => (.items (xs.take n), xs.drop n)
  | .left => (.number xs.length, xs)
  | .count => (.number xs.length, [])
  | .last => (.item xs.getLast?, [])

theorem request_nil (r : Request) : (request [] r).2 = [] := by
  cases r <;> simp [request]

theorem request_suffix (xs : List Constness) (r : Request) : (request xs r).2 <:+ xs := by
  cases r with
  | next => exact List.tail_suffix xs
  | nth n => exact List.drop_suffix (n + 1) xs
  | take n => exact List.drop_suffix n xs
  | left => exact List.suffix_refl xs
  | count => exact List.nil_suffix
  | last => exact List.nil_suffix

theorem pull_eq (c : Cursor) :
    c.pull.1 = c.toList.head? ∧ c.pull.2.toList = c.toList.tail := by
  cases h : c.advance? with
  | none => simp [pull, h, toList_of_advance_none h]
  | some p => simp [pull, h, toList_of_advance h]

theorem arity_pull (c : Cursor) : c.pull.2.arity = c.arity := by
  cases h : c.advance? with
  | none => simp [pull, h]
  | some p =>
    obtain ⟨-, -, -, ha, -⟩ := advance?_eq_some h
    simp [pull, h, ha]

theorem toList_exhausted (c : Cursor) : c.exhausted.toList = [] := by
  apply toList_of_advance_none
  rw [advance?_eq_none_iff, left_eq]
  simp [exhausted, toNat_stop]

theorem toList_skip (n : Nat) (c : Cursor) : (c.skip n).toList = c.toList.drop n := by
  induction n generalizing c with
  | zero => rfl
  | succ n ih =>
    cases h : c.advance? with
    | none => simp [skip, h, toList_of_advance_none h]
    | some p => simp [skip, h, toList_of_advance h, ih p.2]

theorem arity_skip (n : Nat) (c : Cursor) : (c.skip n).arity = c.arity := by
  induction n generalizing c with
  | zero => rfl
  | succ n ih =>
    cases h : c.advance? with
    | none => simp [skip, h]
    | some p =>
      obtain ⟨-, -, -, ha, -⟩ := advance?_eq_some h
      simp [skip, h, ih p.2, ha]

theorem take_eq (n : Nat) (c : Cursor) :
    (c.take n).1 = c.toList.take n ∧ (c.take n).2.toList = c.toList.drop n := by
  induction n generalizing c with
  | zero => simp [take]
  | succ n ih =>
    cases h : c.advance? with
    | none => simp [take, h, toList_of_advance_none h]
    | some p => simp [take, h, toList_of_advance h, ih p.2]

theorem arity_take (n : Nat) (c : Cursor) : (c.take n).2.arity = c.arity := by
  induction n generalizing c with
  | zero => rfl
  | succ n ih =>
    cases h : c.advance? with
    | none => simp [take, h]
    | some p =>
      obtain ⟨-, -, -, ha, -⟩ := advance?_eq_some h
      simp [take, h, ih p.2, ha]

theorem foldl_last (xs : List Constness) (x? : Option Constness) :
    xs.foldl (fun _ x => some x) x? = xs.getLast?.or x? := by
  induction xs generalizing x? with
  | nil => rfl
  | cons x xs ih => rw [List.foldl_cons, ih, List.getLast?_cons]; cases xs.getLast? <;> rfl

/-- A cursor answers as the list of what is still to come, and stands for what is left of it. -/
theorem perform_eq (c : Cursor) (r : Request) :
    (c.perform r).1 = (request c.toList r).1 ∧ (c.perform r).2.toList = (request c.toList r).2 := by
  cases r with
  | next => simp [perform, request, c.pull_eq]
  | nth n => simp [perform, request, (c.skip n).pull_eq, toList_skip]
  | take n => simp [perform, request, take_eq n c]
  | left => simp [perform, request, length_toList]
  | count => simp [perform, request, fold_eq, toList_exhausted]
  | last => simp [perform, request, fold_eq, toList_exhausted, foldl_last]

theorem arity_perform (c : Cursor) (r : Request) : (c.perform r).2.arity = c.arity := by
  cases r with
  | next => exact c.arity_pull
  | nth n => exact (c.skip n).arity_pull.trans (arity_skip n c)
  | take n => exact arity_take n c
  | left => rfl
  | count | last => simp [perform, fold_eq, exhausted]

/-! ## Families -/

def family (first : Cursor) : List Step → List Cursor
  | [] => [first]
  | s :: before => (step (family first before) s).2

def population : List Step → Nat
  | [] => 1
  | .ask _ _ :: before => population before
  | .copy on :: before => if on < population before then population before + 1 else population before

/-- What cursor `i` has been asked, with what its originals had been asked when it was copied. -/
def history : List Step → Nat → List Request
  | [], _ => []
  | .ask on r :: before, i => if i = on then history before i ++ [r] else history before i
  | .copy on :: before, i =>
    if i = population before ∧ on < population before then history before on else history before i

def remaining (xs : List Constness) (rs : List Request) : List Constness :=
  rs.foldl (fun xs r => (request xs r).2) xs

/-- What a step answers when each cursor is a list of its own. -/
def reply (all : List Constness) (before : List Step) : Step → Option Answer
  | .ask on r =>
    if on < population before then some (request (remaining all (history before on)) r).1 else none
  | .copy on => if on < population before then some (.number (population before)) else none

theorem remaining_snoc (xs : List Constness) (rs : List Request) (r : Request) :
    remaining xs (rs ++ [r]) = (request (remaining xs rs) r).2 := by
  simp [remaining]

theorem remaining_suffix (xs : List Constness) (rs : List Request) : remaining xs rs <:+ xs := by
  induction rs generalizing xs with
  | nil => exact List.suffix_refl xs
  | cons r rs ih => exact (ih _).trans (request_suffix xs r)

theorem length_family (first : Cursor) (before : List Step) :
    (family first before).length = population before := by
  induction before with
  | nil => rfl
  | cons s before ih =>
    cases s with
    | ask on r =>
      simp only [family, step, population]
      split
      · exact ih
      · rw [List.length_set, ih]
    | copy on =>
      simp only [family, step, population, ← ih]
      split
      · next h =>
        rw [List.getElem?_eq_none_iff] at h
        rw [if_neg (by omega)]
      · next c h =>
        obtain ⟨hlt, -⟩ := List.getElem?_eq_some_iff.mp h
        rw [if_pos hlt, List.length_append]
        rfl

/-- A cursor stands where its own history has led it. -/
theorem toList_of_family (first : Cursor) : ∀ (before : List Step) (i : Nat) (c : Cursor),
    (family first before)[i]? = some c →
      c.arity = first.arity ∧ c.toList = remaining first.toList (history before i)
  | [], i, c, h => by
    rw [family, List.getElem?_singleton] at h
    split at h
    · cases h; exact ⟨rfl, rfl⟩
    · cases h
  | .ask on r :: before, i, c, h => by
    have hlen := length_family first before
    simp only [family, step] at h
    split at h
    · next hnone =>
      have hne : i ≠ on := by rintro rfl; rw [h] at hnone; cases hnone
      simp only [history, if_neg hne]
      exact toList_of_family first before i c h
    · next d hd =>
      obtain ⟨harity, hlist⟩ := toList_of_family first before on d hd
      rw [List.getElem?_set] at h
      by_cases hi : on = i
      · -- the cursor asked: its history grows by the request
        subst hi
        rw [if_pos rfl] at h
        split at h
        · cases h
          rw [arity_perform, (d.perform_eq r).2, hlist]
          simp only [history, if_true, remaining_snoc]
          exact ⟨harity, trivial⟩
        · cases h
      · -- any other cursor stays where it is
        rw [if_neg hi] at h
        simp only [history, if_neg (Ne.symm hi)]
        exact toList_of_family first before i c h
  | .copy on :: before, i, c, h => by
    have hlen := length_family first before
    simp only [family, step] at h
    split at h
    · next hnone =>
      rw [List.getElem?_eq_none_iff] at hnone
      simp only [history, if_neg (show ¬ (i = population before ∧ on < population before) by omega)]
      exact toList_of_family first before i c h
    · next d hd =>
      obtain ⟨hon, -⟩ := List.getElem?_eq_some_iff.mp hd
      rw [List.getElem?_append] at h
      split at h
      · next hi =>
        simp only [history, if_neg (show ¬ (i = population before ∧ on < population before) by omega)]
        exact toList_of_family first before i c h
      · next hi =>
        -- the copy: it takes over the history of its original
        rw [List.getElem?_singleton] at h
        split at h
        · next hz =>
          cases h
          simp only [history, if_pos (show i = population before ∧ on < population before by omega)]
          exact toList_of_family first before on c hd
        · cases h

theorem answer_of_family (first : Cursor) (before : List Step) (s : Step) :
    (step (family first before) s).1 = reply first.toList before s := by
  have hlen := length_family first before
  cases s with
  | ask on r =>
    simp only [step, reply]
    split
    · next hnone =>
      rw [List.getElem?_eq_none_iff] at hnone
      rw [if_neg (by omega)]
    · next c hc =>
      obtain ⟨hon, -⟩ := List.getElem?_eq_some_iff.mp hc
      obtain ⟨-, hlist⟩ := toList_of_family first before on c hc
      rw [if_pos (by omega), ← hlist, ← (c.perform_eq r).1]
  | copy on =>
    simp only [step, reply]
    split
    · next hnone =>
      rw [List.getElem?_eq_none_iff] at hnone
      rw [if_neg (by omega)]
    · next c hc =>
      obtain ⟨hon, -⟩ := List.getElem?_eq_some_iff.mp hc
      rw [if_pos (by omega), hlen]

structure Standing (arity : Nat) (all : List Constness) (c : Cursor) : Prop where
  next_le : c.next ≤ c.stop
  place : c.next.toNat + c.toList.length = 2 ^ arity
  stop_eq : c.stop.toNat = 2 ^ arity
  distance : (c.stop - c.next).toNat = c.stop.toNat - c.next.toNat
  successor : c.next < c.stop → (c.next + 1).toNat = c.next.toNat + 1
  suffix : c.toList <:+ all
  sizeHint_eq : c.sizeHint = (c.toList.length, some c.toList.length)
  stays_exhausted : c.toList = [] → ∀ r, (c.perform r).2.toList = []

theorem standing_of_suffix {c : Cursor} {all : List Constness} (h : c.toList <:+ all) :
    Standing c.arity all c where
  next_le := c.next_le_stop
  place := by
    rw [length_toList, left_eq]
    exact Nat.add_sub_cancel' c.next_le
  stop_eq := c.toNat_stop
  distance := UInt32.toNat_sub_of_le _ _ c.next_le_stop
  successor hlt := c.toNat_succ (c.lt_stop_iff.mp hlt)
  suffix := h
  sizeHint_eq := by
    rw [length_toList]
    rfl
  stays_exhausted hnil r := by
    rw [(c.perform_eq r).2, hnil, request_nil]

/-- Each cursor of a family is a list `0, 1, 2, …` with a place of its own: whatever the order of
steps, it answers as what its own history has left of that list. -/
theorem family_eq_lists (arity : Nat) (h : arity ≤ widest) :
    start? arity = .ok (start arity h) ∧
    ∃ all : List Constness,
      all.map (fun x => x.bits.toNat) = List.range (2 ^ arity) ∧
      (∀ x ∈ all, Constness.ofBits arity x.bits = .ok x) ∧
      ∀ before : List Step,
        (∀ s, (step (family (start arity h) before) s).1 = reply all before s) ∧
        ∀ i c, (family (start arity h) before)[i]? = some c →
          c.toList = remaining all (history before i) ∧ Standing arity all c := by
  refine ⟨dif_pos h, (start arity h).toList, map_bits_toList_start arity h, ?_, ?_⟩
  · intro x hx
    exact Constness.ofBits_eq_ok_iff.mpr ⟨arity_of_mem_toList _ x hx, rfl⟩
  · intro before
    refine ⟨answer_of_family _ before, ?_⟩
    intro i c hc
    obtain ⟨harity, hlist⟩ := toList_of_family _ before i c hc
    have hsuffix : c.toList <:+ (start arity h).toList := hlist ▸ remaining_suffix _ _
    have hstanding := standing_of_suffix hsuffix
    rw [harity] at hstanding
    exact ⟨hlist, hstanding⟩

/-- A copy of the widest cursor starts at its first word although the original has run out. -/
theorem copy_of_widest_starts_over : 31 ≤ widest ∧ ∃ x : Constness,
    (step (family (start 31 (by decide)) [.ask 0 (.nth (2 ^ 64 - 1)), .copy 0])
      (.ask 1 .next)).1 = some (.item (some x)) ∧ x.bits.toNat = 0 := by
  obtain ⟨-, all, hbits, -, hall⟩ := family_eq_lists 31 (by decide)
  have hanswer := (hall [.ask 0 (.nth (2 ^ 64 - 1)), .copy 0]).1 (.ask 1 .next)
  have hreply : reply all [.ask 0 (.nth (2 ^ 64 - 1)), .copy 0] (.ask 1 .next) =
      some (.item all.head?) := by
    simp [reply, history, population, remaining, request]
  have hhead : (all.head?.map fun x => x.bits.toNat) = some 0 := by
    rw [← List.head?_map, hbits, List.head?_range]
    rfl
  obtain ⟨x, hx, hzero⟩ := Option.map_eq_some_iff.mp hhead
  refine ⟨by decide, x, ?_, hzero⟩
  rw [hanswer, hreply, hx]

end Overloads.Cursor
