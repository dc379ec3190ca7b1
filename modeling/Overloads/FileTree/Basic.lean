import Overloads.Text.Bytes

/-!
# Trees of files

A tree holds directories, regular files, symbolic links and sinks, each at its
location: the names that lead to it from the root. Whatever it holds stands in
a directory of the tree. Trees that hold the same at every location are equal
(`FileTree.ext_get?`), and putting an entry somewhere changes nothing elsewhere
(`FileTree.get?_put`).
-/

namespace Overloads

/-- The names that lead from the root to a place; none for the root itself. -/
abbrev Location := List String

def Location.path (l : Location) : String := "/" ++ "/".intercalate l

inductive Entry where
  | directory
  | file (content : ByteArray)
  | link (target : String)
  /-- A device. It takes all bytes and has none to read or, when full, takes none and has zero
  bytes without end. -/
  | sink (full : Bool)
deriving DecidableEq

namespace Entries

def find : List (Location × Entry) → Location → Option Entry
  | [], _ => none
  | (k, x) :: es, l => if k = l then some x else find es l

/-- Puts an entry in its place in the order, over one that stands there. -/
def insert : List (Location × Entry) → Location → Entry → List (Location × Entry)
  | [], l, e => [(l, e)]
  | (k, x) :: es, l, e =>
    if k = l then (l, e) :: es
    else if l < k then (l, e) :: (k, x) :: es
    else (k, x) :: insert es l e

abbrev Ordered (es : List (Location × Entry)) : Prop :=
  es.Pairwise fun a b => a.1 < b.1

theorem find_insert (es : List (Location × Entry)) (l m : Location) (e : Entry) :
    find (insert es l e) m = if l = m then some e else find es m := by
  induction es with
  | nil => simp [insert, find]
  | cons p es ih =>
    obtain ⟨k, x⟩ := p
    simp only [insert]
    split
    · next h => subst h; by_cases hm : k = m <;> simp [find, hm]
    · split
      · simp [find]
      · next hk _ =>
        by_cases hm : k = m
        · subst hm; simp [find, show ¬ l = k from fun h => hk h.symm]
        · simp [find, hm, ih]

theorem mem_insert {es : List (Location × Entry)} {l : Location} {e : Entry}
    {p : Location × Entry} (hp : p ∈ insert es l e) : p = (l, e) ∨ p ∈ es := by
  induction es with
  | nil => simpa [insert] using hp
  | cons q es ih =>
    obtain ⟨k, x⟩ := q
    simp only [insert] at hp
    split at hp
    · simp only [List.mem_cons] at hp ⊢
      exact hp.imp id .inr
    · split at hp
      · simpa using hp
      · simp only [List.mem_cons] at hp ⊢
        rcases hp with h | h
        · exact .inr (.inl h)
        · exact (ih h).imp id .inr

theorem ordered_insert {es : List (Location × Entry)} (h : Ordered es) (l : Location)
    (e : Entry) : Ordered (insert es l e) := by
  induction es with
  | nil => simp [insert, Ordered]
  | cons p es ih =>
    obtain ⟨k, x⟩ := p
    obtain ⟨hk, hes⟩ := List.pairwise_cons.mp h
    simp only [insert]
    split
    · next hl => subst hl; exact List.pairwise_cons.mpr ⟨hk, hes⟩
    · split
      · next hl =>
        refine List.pairwise_cons.mpr ⟨?_, h⟩
        intro q hq
        rcases List.mem_cons.mp hq with rfl | hq
        · exact hl
        · exact List.lt_trans hl (hk q hq)
      · next hne hl =>
        refine List.pairwise_cons.mpr ⟨?_, ih hes⟩
        intro q hq
        rcases mem_insert hq with rfl | hq
        · refine Decidable.byContradiction fun hkl => hne ?_
          exact List.le_antisymm (List.not_lt.mp hl) (List.not_lt.mp hkl)
        · exact hk q hq

theorem find_of_lt {es : List (Location × Entry)} {l : Location}
    (h : ∀ p ∈ es, l < p.1) : find es l = none := by
  induction es with
  | nil => rfl
  | cons p es ih =>
    obtain ⟨k, x⟩ := p
    have hk : ¬ k = l := fun e => List.lt_irrefl l (e ▸ h (k, x) (by simp))
    simp [find, hk, ih fun q hq => h q (by simp [hq])]

theorem mem_of_find {es : List (Location × Entry)} {l : Location} {e : Entry}
    (h : find es l = some e) : (l, e) ∈ es := by
  induction es with
  | nil => cases h
  | cons p es ih =>
    obtain ⟨k, x⟩ := p
    simp only [find] at h
    split at h
    · next hk => cases h; subst hk; simp
    · simp [ih h]

theorem eq_of_find {es fs : List (Location × Entry)} (hes : Ordered es) (hfs : Ordered fs)
    (h : ∀ l, find es l = find fs l) : es = fs := by
  induction es generalizing fs with
  | nil =>
    cases fs with
    | nil => rfl
    | cons q fs => have := h q.1; simp [find] at this
  | cons p es ih =>
    obtain ⟨k, x⟩ := p
    obtain ⟨hk, hes'⟩ := List.pairwise_cons.mp hes
    cases fs with
    | nil => have := h k; simp [find] at this
    | cons q fs =>
      obtain ⟨m, y⟩ := q
      obtain ⟨hm, hfs'⟩ := List.pairwise_cons.mp hfs
      have hkm : k = m := by
        have h1 := mem_of_find ((h m).trans (by simp [find]) : find ((k, x) :: es) m = some y)
        have h2 := mem_of_find ((h k).symm.trans (by simp [find]) : find ((m, y) :: fs) k = some x)
        rcases List.mem_cons.mp h1 with e | h1
        · exact (Prod.mk.inj e).1.symm
        · rcases List.mem_cons.mp h2 with e | h2
          · exact (Prod.mk.inj e).1
          · exact absurd (hk _ h1) (List.lt_asymm (hm _ h2))
      subst hkm
      have hxy : x = y := by have := h k; simpa [find] using this
      subst hxy
      refine congrArg _ (ih hes' hfs' fun l => ?_)
      by_cases hl : k = l
      · subst hl; rw [find_of_lt hk, find_of_lt hm]
      · have := h l; simpa [find, hl] using this

end Entries

structure FileTree where
  entries : List (Location × Entry)
  ordered : Entries.Ordered entries
  rooted : ∀ l e, Entries.find entries l = some e →
    l ≠ [] ∧ (l.dropLast = [] ∨ Entries.find entries l.dropLast = some .directory)

namespace FileTree

def empty : FileTree := ⟨[], .nil, fun _ _ h => by cases h⟩

/-- What stands at a location; the root is a directory. -/
def get? (t : FileTree) (l : Location) : Option Entry :=
  if l = [] then some .directory else Entries.find t.entries l

theorem get?_root (t : FileTree) : t.get? [] = some .directory := rfl

theorem get?_of_ne (t : FileTree) {l : Location} (h : l ≠ []) :
    t.get? l = Entries.find t.entries l := if_neg h

theorem ext_get? {t u : FileTree} (h : ∀ l, t.get? l = u.get? l) : t = u := by
  have : t.entries = u.entries := by
    refine Entries.eq_of_find t.ordered u.ordered fun l => ?_
    by_cases hl : l = []
    · subst hl
      cases ht : Entries.find t.entries [] with
      | some e => exact absurd rfl (t.rooted _ _ ht).1
      | none => cases hu : Entries.find u.entries [] with
        | some e => exact absurd rfl (u.rooted _ _ hu).1
        | none => rfl
    · rw [← t.get?_of_ne hl, ← u.get?_of_ne hl, h]
  cases t; cases u; cases this; rfl

/-- Whatever is not the root stands in a directory. -/
theorem get?_dropLast {t : FileTree} {l : Location} {e : Entry} (h : t.get? l = some e) :
    t.get? l.dropLast = some .directory := by
  by_cases hl : l = []
  · subst hl; rfl
  · rw [t.get?_of_ne hl] at h
    rcases (t.rooted _ _ h).2 with h' | h'
    · rw [h']; rfl
    · by_cases hd : l.dropLast = []
      · rw [hd]; rfl
      · rw [t.get?_of_ne hd, h']

/-- An entry can be put into a directory, unless it would take the place of one. -/
def HasRoom (t : FileTree) (l : Location) : Prop :=
  l ≠ [] ∧ t.get? l.dropLast = some .directory ∧ t.get? l ≠ some .directory

instance (t : FileTree) (l : Location) : Decidable (t.HasRoom l) := by
  unfold HasRoom; infer_instance

def put (t : FileTree) (l : Location) (e : Entry) : FileTree :=
  if h : t.HasRoom l then
    { entries := Entries.insert t.entries l e
      ordered := Entries.ordered_insert t.ordered l e
      rooted := by
        obtain ⟨hl, hp, hd⟩ := h
        have key : ∀ m : Location, m ≠ [] → t.get? m = some .directory →
            Entries.find (Entries.insert t.entries l e) m = some .directory := by
          intro m hm hg
          have hne : l ≠ m := fun eq => hd (eq ▸ hg)
          rw [Entries.find_insert, if_neg hne, ← t.get?_of_ne hm, hg]
        intro m x hx
        rw [Entries.find_insert] at hx
        split at hx
        · next hlm =>
          subst hlm
          refine ⟨hl, ?_⟩
          by_cases hr : l.dropLast = []
          · exact .inl hr
          · exact .inr (key _ hr hp)
        · obtain ⟨hm, hr⟩ := t.rooted m x hx
          refine ⟨hm, ?_⟩
          by_cases hn : m.dropLast = []
          · exact .inl hn
          · exact .inr (key _ hn (by rw [t.get?_of_ne hn]; exact hr.resolve_left hn)) }
  else t

theorem get?_put {t : FileTree} {l : Location} (h : t.HasRoom l) (m : Location) (e : Entry) :
    (t.put l e).get? m = if l = m then some e else t.get? m := by
  unfold put
  rw [dif_pos h]
  by_cases hm : m = []
  · subst hm; simp [get?, h.1]
  · simp only [get?, hm, if_false, Entries.find_insert]

end FileTree

end Overloads
