import Overloads.Proofs.FileTree.Leading

/-!
# Trees that grow

Making directories changes nothing that is there already, and all it adds are
directories (`makeDirectories_grows`), also where it stops half-way. A file that is put
there then is the only other difference (`AddsDirectories.setsFile`).
-/

namespace Overloads.FileTree

/-- The other tree holds all of this one, and directories besides. -/
structure AddsDirectories (t u : FileTree) : Prop where
  kept : ∀ l e, t.get? l = some e → u.get? l = some e
  added : ∀ l, t.get? l = none → u.get? l = none ∨ u.get? l = some .directory

variable {t u v : FileTree}

theorem AddsDirectories.refl (t : FileTree) : t.AddsDirectories t :=
  ⟨fun _ _ h => h, fun _ h => .inl h⟩

theorem AddsDirectories.trans (h₁ : t.AddsDirectories u) (h₂ : u.AddsDirectories v) :
    t.AddsDirectories v := by
  refine ⟨fun l e h => h₂.kept l e (h₁.kept l e h), fun l h => ?_⟩
  rcases h₁.added l h with hu | hu
  · exact h₂.added l hu
  · exact .inr (h₂.kept l _ hu)

theorem AddsDirectories.origin (h : t.AddsDirectories u) {l : Location} {e : Entry}
    (hl : u.get? l = some e) : t.get? l = some e ∨ e = .directory := by
  cases hold : t.get? l with
  | none =>
    rcases h.added l hold with hn | hn <;> rw [hl] at hn <;> cases hn
    exact .inr rfl
  | some e' =>
    have hkept := h.kept l e' hold
    rw [hl] at hkept
    exact .inl hkept.symm

theorem AddsDirectories.carries (h : t.AddsDirectories u) : t.Carries u :=
  fun l e he _ => h.kept l e he

theorem put_of_no_room {l : Location} (h : ¬ t.HasRoom l) (e : Entry) : t.put l e = t := by
  unfold put
  rw [dif_neg h]

theorem put_of_get? {l : Location} {e : Entry} (h : t.get? l = some e) : t.put l e = t := by
  by_cases hroom : t.HasRoom l
  · refine ext_get? fun m => ?_
    rw [get?_put hroom]
    split
    · next hm => rw [← hm, h]
    · rfl
  · exact put_of_no_room hroom e

theorem put_directory_grows {l : Location} (h : t.get? l = none) :
    t.AddsDirectories (t.put l .directory) := by
  by_cases hroom : t.HasRoom l
  · constructor
    · intro m e he
      have hne : l ≠ m := by rintro rfl; rw [h] at he; cases he
      rw [get?_put hroom, if_neg hne, he]
    · intro m hm
      rw [get?_put hroom]
      split
      · exact .inr rfl
      · exact .inl hm
  · rw [put_of_no_room hroom]
    exact .refl t

theorem makeDirectory_grows {here : Location} {path : String}
    (h : t.makeDirectory here path = .ok u) : t.AddsDirectories u := by
  unfold makeDirectory at h
  split at h
  · cases h
  · cases h
  · next l hl =>
    cases h
    obtain ⟨-, hleads⟩ := resolve_eq_ok_iff.mp hl
    exact put_directory_grows hleads.get?_free

theorem climb_grows (t : FileTree) (here : Location) : ∀ above below : List String,
    t.AddsDirectories (t.climb here above below).2
  | [], _ => .refl t
  | path :: above, below => by
    simp only [climb]
    split
    · next h => exact makeDirectory_grows h
    · split
      · exact climb_grows t here above (path :: below)
      · split <;> exact .refl t

theorem descend_grows (here : Location) : ∀ (t : FileTree) (below : List String),
    t.AddsDirectories (t.descend here below).2
  | t, [] => .refl t
  | t, path :: below => by
    simp only [descend]
    split
    · next u h => exact (makeDirectory_grows h).trans (descend_grows here u below)
    · split
      · exact descend_grows here t below
      · exact .refl t

theorem makeDirectories_grows (t : FileTree) (here : Location) (path : String) :
    t.AddsDirectories (t.makeDirectories here path).2 := by
  have hclimb := climb_grows t here (Path.ancestors path) []
  unfold makeDirectories
  split
  · next h => rwa [h] at hclimb
  · next below u h =>
    rw [h] at hclimb
    exact hclimb.trans (descend_grows here u below)

/-! ## One file more -/

/-- It holds directories, regular files and links only. -/
def IsPlain (t : FileTree) : Prop := ∀ l full, t.get? l ≠ some (.sink full)

/-- The other tree has this content in one file, new or overwritten, and holds all else of this
one, and directories besides. -/
structure SetsFile (t u : FileTree) (l : Location) (content : ByteArray) : Prop where
  content_eq : u.get? l = some (.file content)
  before : t.get? l = none ∨ ∃ old, t.get? l = some (.file old)
  kept : ∀ m e, m ≠ l → t.get? m = some e → u.get? m = some e
  added : ∀ m, m ≠ l → t.get? m = none → u.get? m = none ∨ u.get? m = some .directory

theorem isPlain_empty : empty.IsPlain := by
  intro l full h
  simp only [get?] at h
  split at h <;> cases h

theorem IsPlain.put {e : Entry} (h : t.IsPlain) (he : ∀ full, e ≠ .sink full) (l : Location) :
    (t.put l e).IsPlain := by
  by_cases hroom : t.HasRoom l
  · intro m full hm
    rw [get?_put hroom] at hm
    split at hm
    · cases hm; exact he full rfl
    · exact h m full hm
  · rwa [put_of_no_room hroom]

theorem AddsDirectories.isPlain (h : t.AddsDirectories u) (ht : t.IsPlain) : u.IsPlain := by
  intro l full hl
  rcases h.origin hl with hold | hdirectory
  · exact ht l full hold
  · cases hdirectory

theorem setsFile_put {l : Location} (hroom : t.HasRoom l)
    (hl : t.get? l = none ∨ ∃ old, t.get? l = some (.file old)) (content : ByteArray) :
    t.SetsFile (t.put l (.file content)) l content where
  content_eq := by rw [get?_put hroom, if_pos rfl]
  before := hl
  kept m e hm he := by rw [get?_put hroom, if_neg (Ne.symm hm), he]
  added m hm he := by rw [get?_put hroom, if_neg (Ne.symm hm)]; exact .inl he

theorem AddsDirectories.setsFile {l : Location} {content : ByteArray} (h : t.AddsDirectories u)
    (hv : u.SetsFile v l content) : t.SetsFile v l content where
  content_eq := hv.content_eq
  before := by
    rcases hv.before with hl | ⟨old, hl⟩
    · cases hold : t.get? l with
      | none => exact .inl rfl
      | some e => rw [h.kept l e hold] at hl; cases hl
    · refine .inr ⟨old, (h.origin hl).resolve_right fun hd => ?_⟩
      cases hd
  kept m e hm he := hv.kept m e hm (h.kept m e he)
  added m hm he := by
    rcases h.added m he with hn | hd
    · exact hv.added m hm hn
    · exact .inr (hv.kept m _ hm hd)

theorem SetsFile.carries {l : Location} {content : ByteArray} (h : t.SetsFile u l content) :
    t.Carries u := by
  intro m e he hpass
  by_cases hm : m = l
  · subst hm
    rcases h.before with hb | ⟨old, hb⟩ <;> rw [he] at hb <;> cases hb
    exact absurd hpass id
  · exact h.kept m e hm he

theorem SetsFile.origin {l m : Location} {content : ByteArray} {e : Entry}
    (h : t.SetsFile u l content) (hm : u.get? m = some e) :
    (m = l ∧ e = .file content) ∨ t.get? m = some e ∨ e = .directory := by
  by_cases hml : m = l
  · subst hml
    rw [h.content_eq] at hm
    cases hm
    exact .inl ⟨rfl, rfl⟩
  · refine .inr ?_
    cases hold : t.get? m with
    | none =>
      rcases h.added m hml hold with hn | hn <;> rw [hm] at hn <;> cases hn
      exact .inr rfl
    | some old =>
      have hkept := h.kept m old hml hold
      rw [hm] at hkept
      exact .inl hkept.symm

theorem SetsFile.isPlain {l : Location} {content : ByteArray} (h : t.SetsFile u l content)
    (ht : t.IsPlain) : u.IsPlain := by
  intro m full hm
  rcases h.origin hm with ⟨-, hfile⟩ | hold | hdirectory
  · cases hfile
  · exact ht m full hold
  · cases hdirectory

end Overloads.FileTree
