import Overloads.Argument.Constness

/-!
# Going through all constnesses of one arity

A `Cursor` stands before one word of the sequence `0, 1, 2, …` of all words of
its arity, or at its end, and moves on by one word at a time (`advance?`). `toList` is what
is still to come, and each operation is one on that list: `advance?` splits
off its head (`toList_of_advance`), `left` is its length (`length_toList`), and
going through all of it is a fold (`fold_eq`).
-/

namespace Overloads

/-- A place in the sequence of all constnesses of one arity. -/
structure Cursor where
  arity : Nat
  next : UInt32
  arity_le : arity ≤ widest
  next_le : next.toNat ≤ combinations arity

namespace Cursor

def start (arity : Nat) (h : arity ≤ widest) : Cursor :=
  ⟨arity, 0, h, by simp⟩

/-- The cursor before the first constness, for an arity that has any. -/
def start? (arity : Nat) : Except ConstnessError Cursor :=
  if h : arity ≤ widest then .ok (start arity h) else .error (.tooWide arity widest)

def stop (c : Cursor) : UInt32 :=
  Constness.ceiling c.arity c.arity_le

theorem toNat_stop (c : Cursor) : c.stop.toNat = combinations c.arity :=
  Constness.toNat_ceiling _ _

/-- Bounds on how many constnesses are still to come: both are the distance to the end. -/
def sizeHint (c : Cursor) : Nat × Option Nat :=
  ((c.stop - c.next).toNat, some (c.stop - c.next).toNat)

def left (c : Cursor) : Nat :=
  c.sizeHint.1

theorem next_le_stop (c : Cursor) : c.next ≤ c.stop := by
  rw [UInt32.le_iff_toNat_le, toNat_stop]
  exact c.next_le

theorem left_eq (c : Cursor) : c.left = combinations c.arity - c.next.toNat := by
  rw [left, sizeHint, UInt32.toNat_sub_of_le _ _ c.next_le_stop, toNat_stop]

theorem lt_stop_iff (c : Cursor) : c.next < c.stop ↔ c.next.toNat < combinations c.arity := by
  rw [UInt32.lt_iff_toNat_lt, toNat_stop]

/-- The words of an arity do not wrap around. -/
theorem toNat_succ (c : Cursor) (h : c.next.toNat < combinations c.arity) :
    (c.next + 1).toNat = c.next.toNat + 1 := by
  have := combinations_lt c.arity_le
  rw [UInt32.toNat_add, UInt32.toNat_one]
  exact Nat.mod_eq_of_lt (by simp only [UInt32.size] at this; omega)

/-- The constness the cursor stands before, and the cursor behind it. -/
def advance? (c : Cursor) : Option (Constness × Cursor) :=
  if h : c.next < c.stop then
    have hn : c.next.toNat < combinations c.arity := c.lt_stop_iff.mp h
    some (⟨c.arity, c.next, c.arity_le, hn⟩,
      { c with next := c.next + 1, next_le := by rw [c.toNat_succ hn]; exact hn })
  else none

/-- Goes over `n` constnesses, or to the end when fewer are left. -/
def skip (c : Cursor) : Nat → Cursor
  | 0 => c
  | n + 1 => match c.advance? with
    | none => c
    | some (_, c') => c'.skip n

def take (c : Cursor) : Nat → List Constness × Cursor
  | 0 => ([], c)
  | n + 1 => match c.advance? with
    | none => ([], c)
    | some (x, c') => let (xs, c'') := c'.take n; (x :: xs, c'')

/-- What is still to come, in order. -/
def toList (c : Cursor) : List Constness :=
  (c.take c.left).1

theorem advance?_eq_none_iff (c : Cursor) : c.advance? = none ↔ c.left = 0 := by
  rw [left_eq, Nat.sub_eq_zero_iff_le, ← Nat.not_lt, ← lt_stop_iff]
  unfold advance?
  split
  · next h => simp [h]
  · next h => simp [h]

/-- All that a step forward does. -/
theorem advance?_eq_some {c c' : Cursor} {x : Constness} (h : c.advance? = some (x, c')) :
    c.next.toNat < combinations c.arity ∧ x.arity = c.arity ∧ x.bits = c.next ∧
      c'.arity = c.arity ∧ c'.next.toNat = c.next.toNat + 1 := by
  unfold advance? at h
  split at h
  · next hlt =>
    have hn := c.lt_stop_iff.mp hlt
    simp only [Option.some.injEq, Prod.mk.injEq] at h
    obtain ⟨rfl, rfl⟩ := h
    exact ⟨hn, rfl, rfl, rfl, c.toNat_succ hn⟩
  · cases h

theorem left_of_advance {c c' : Cursor} {x : Constness} (h : c.advance? = some (x, c')) :
    c.left = c'.left + 1 := by
  obtain ⟨hn, -, -, ha, hs⟩ := advance?_eq_some h
  rw [left_eq, left_eq, ha, hs]
  omega

/-- Goes through all that is still to come. -/
def fold {α : Type} (c : Cursor) (f : α → Constness → α) (a : α) : α × Cursor :=
  match h : c.advance? with
  | none => (a, c)
  | some (x, c') =>
    have : c'.left < c.left := by rw [left_of_advance h]; exact Nat.lt_succ_self _
    c'.fold f (f a x)
termination_by c.left

theorem toList_of_advance {c c' : Cursor} {x : Constness} (h : c.advance? = some (x, c')) :
    c.toList = x :: c'.toList := by
  rw [toList, left_of_advance h, take, h]
  rfl

theorem toList_of_advance_none {c : Cursor} (h : c.advance? = none) : c.toList = [] := by
  rw [toList, (advance?_eq_none_iff c).mp h, take]

/-- A cursor reaches the end of its sequence. -/
theorem advance_induction {P : Cursor → Prop} (done : ∀ c, c.advance? = none → P c)
    (step : ∀ c x c', c.advance? = some (x, c') → P c' → P c) (c : Cursor) : P c := by
  generalize hn : c.left = n
  induction n generalizing c with
  | zero => exact done c ((advance?_eq_none_iff c).mpr hn)
  | succ n ih =>
    cases ha : c.advance? with
    | none => exact done c ha
    | some p =>
      have hl := left_of_advance ha
      exact step c p.1 p.2 ha (ih p.2 (by omega))

/-- The words still to come follow one another. -/
theorem map_bits_toList (c : Cursor) :
    c.toList.map (fun x => x.bits.toNat) = List.range' c.next.toNat c.left := by
  induction c using advance_induction with
  | done c h =>
    rw [toList_of_advance_none h, (advance?_eq_none_iff c).mp h]
    rfl
  | step c x c' h ih =>
    obtain ⟨-, -, hx, -, hs⟩ := advance?_eq_some h
    rw [toList_of_advance h, List.map_cons, ih, hx, hs, left_of_advance h, List.range'_succ]

theorem length_toList (c : Cursor) : c.toList.length = c.left := by
  have := congrArg List.length c.map_bits_toList
  simpa using this

theorem arity_of_mem_toList (c : Cursor) : ∀ x ∈ c.toList, x.arity = c.arity := by
  induction c using advance_induction with
  | done c h => rw [toList_of_advance_none h]; intro x hx; cases hx
  | step c y c' h ih =>
    obtain ⟨-, hy, -, hc, -⟩ := advance?_eq_some h
    intro x hx
    rw [toList_of_advance h, List.mem_cons] at hx
    rcases hx with rfl | hx
    · exact hy
    · rw [ih x hx, hc]

/-! ## Going far at once -/

/-- How many words a cursor goes on by, stopping at the end. -/
theorem toNat_next_skip (n : Nat) (c : Cursor) :
    (c.skip n).next.toNat = min (c.next.toNat + n) (combinations c.arity) := by
  induction n generalizing c with
  | zero => exact (Nat.min_eq_left c.next_le).symm
  | succ n ih =>
    cases h : c.advance? with
    | none =>
      have hl := (advance?_eq_none_iff c).mp h
      rw [left_eq] at hl
      have := c.next_le
      simp only [skip, h]
      omega
    | some p =>
      obtain ⟨-, -, -, ha, hs⟩ := advance?_eq_some h
      simp only [skip, h, ih, ha, hs]
      omega

def exhausted (c : Cursor) : Cursor :=
  { c with next := c.stop, next_le := Nat.le_of_eq c.toNat_stop }

theorem exhausted_of_advance_none {c : Cursor} (h : c.advance? = none) : c.exhausted = c := by
  have hl := (advance?_eq_none_iff c).mp h
  have hle := c.next_le
  rw [left_eq] at hl
  have hnext : c.stop = c.next := by
    rw [← UInt32.toNat_inj, toNat_stop]
    omega
  simp only [exhausted, hnext]

theorem exhausted_of_advance {c c' : Cursor} {x : Constness} (h : c.advance? = some (x, c')) :
    c'.exhausted = c.exhausted := by
  obtain ⟨-, -, -, ha, -⟩ := advance?_eq_some h
  have hstop : c'.stop = c.stop := by
    rw [← UInt32.toNat_inj, toNat_stop, toNat_stop, ha]
  simp only [exhausted, hstop, ha]

theorem fold_eq {α : Type} (c : Cursor) (f : α → Constness → α) (a : α) :
    c.fold f a = (c.toList.foldl f a, c.exhausted) := by
  induction c using advance_induction generalizing a with
  | done c h =>
    rw [fold, toList_of_advance_none h, exhausted_of_advance_none h]
    split
    · rfl
    · next h' => cases h.symm.trans h'
  | step c x c' h ih =>
    rw [fold, toList_of_advance h, ← exhausted_of_advance h, List.foldl_cons, ← ih]
    split
    · next h' => cases h.symm.trans h'
    · next h' => cases h.symm.trans h'; rfl

theorem map_bits_toList_start (arity : Nat) (h : arity ≤ widest) :
    (start arity h).toList.map (fun x => x.bits.toNat) = List.range (combinations arity) := by
  rw [map_bits_toList, left_eq, List.range_eq_range']
  rfl

/-! ## Requests to a cursor -/

inductive Request where
  | next
  | nth (n : Nat)
  | take (n : Nat)
  | left
  /-- How many all the rest are, using them up. -/
  | count
  /-- The last of all the rest, using them up. -/
  | last

inductive Answer where
  | item (x : Option Constness)
  | items (xs : List Constness)
  | number (n : Nat)
deriving DecidableEq

def pull (c : Cursor) : Option Constness × Cursor :=
  match c.advance? with
  | none => (none, c)
  | some (x, c') => (some x, c')

def perform (c : Cursor) : Request → Answer × Cursor
  | .next => let (x, c') := c.pull; (.item x, c')
  | .nth n => let (x, c') := (c.skip n).pull; (.item x, c')
  | .take n => let (xs, c') := c.take n; (.items xs, c')
  | .left => (.number c.left, c)
  | .count => let (n, c') := c.fold (fun n _ => n + 1) 0; (.number n, c')
  | .last => let (x, c') := c.fold (fun _ x => some x) none; (.item x, c')

/-- A request to one cursor of a family, or a copy of that cursor put at the family's end. -/
inductive Step where
  | ask (on : Nat) (request : Request)
  | copy (on : Nat)

def step (family : List Cursor) : Step → Option Answer × List Cursor
  | .ask on request => match family[on]? with
    | none => (none, family)
    | some c => let (a, c') := c.perform request; (some a, family.set on c')
  | .copy on => match family[on]? with
    | none => (none, family)
    | some c => (some (.number family.length), family ++ [c])

end Cursor

end Overloads
