import Overloads.Proofs.FileTree.Growth
import Overloads.Proofs.FileTree.Passing
import Overloads.Proofs.FileTree.Pieces

/-!
# Directories on the way

Whatever making the directories of a path adds, the path goes through it. So it adds nothing that
is missing in a tree in which the path leads to a directory, however that tree came by what it has
(`makeDirectories_fits`).
-/

namespace Overloads.FileTree

variable {t u w : FileTree} {floor : Option Location} {arrival : Arrival} {links : Nat}
  {cur here : Location} {steps : List Step} {s : Spot} {c c' : Course} {l : Location}

/-! ## What a walk passes -/

theorem Advances.append (h : t.Advances c c') (more : List Step) :
    t.Advances (c.1, c.2 ++ more) (c'.1, c'.2 ++ more) := by
  cases h with
  | here => exact .here
  | slash => exact .slash
  | up => exact .up
  | enter hget => exact .enter hget
  | follow hget =>
    simp only [List.append_assoc]
    exact .follow hget

theorem Carries.advances (hu : t.Carries u) (h : t.Advances c c') : u.Advances c c' := by
  cases h with
  | here => exact .here
  | slash => exact .slash
  | up => exact .up
  | enter hget => exact .enter (hu _ _ hget trivial)
  | follow hget => exact .follow (hu _ _ hget trivial)

/-- What the first steps of a way look at is looked at all the way, also in a tree with more. -/
theorem Carries.looksAt_append (hu : t.Carries u) (h : t.LooksAt c l) (more : List Step) :
    u.LooksAt (c.1, c.2 ++ more) l := by
  obtain ⟨cur, n, rest, hpass, rfl⟩ := h
  refine ⟨cur, n, rest ++ more, ?_, rfl⟩
  exact hpass.lift (fun c => (c.1, c.2 ++ more)) fun _ _ h => (hu.advances h).append more

theorem Advances.eq {c'' : Course} (h : t.Advances c c') (h' : t.Advances c c'') : c' = c'' := by
  cases h with
  | here => cases h'; rfl
  | slash => cases h'; rfl
  | up => cases h'; rfl
  | enter hget =>
    cases h' with
    | enter _ => rfl
    | follow hget' => rw [hget] at hget'; cases hget'
  | follow hget =>
    cases h' with
    | enter hget' => rw [hget] at hget'; cases hget'
    | follow hget' => rw [hget] at hget'; cases hget'; rfl

/-- What is looked at is what the next step is about, or it is looked at behind that step. -/
theorem Advances.looksAt_cases (h : t.Advances c c') (hl : t.LooksAt c l) :
    t.LooksAt c' l ∨ ∃ n rest, c.2 = .name n :: rest ∧ l = c.1 ++ [n] := by
  obtain ⟨cur, n, rest, hpass, rfl⟩ := hl
  rcases hpass.cases_head with rfl | ⟨c'', hstep, hpass⟩
  · exact .inr ⟨n, rest, rfl, rfl⟩
  · obtain rfl := h.eq hstep
    exact .inl ⟨cur, n, rest, hpass, rfl⟩

/-- A walk that comes to its end went through all that it looked at, the end apart. -/
theorem Leads.passable (h : t.Leads floor arrival links cur steps s) (harrival : arrival ≠ .stop)
    (hl : t.LooksAt (cur, steps) l) :
    (∃ e, t.get? l = some e ∧ e.Passable) ∨ l = s.location := by
  induction h with
  | done links cur =>
    obtain ⟨_, _, _, hpass, -⟩ := hl
    rcases hpass.cases_head with heq | ⟨_, hstep, -⟩
    · cases heq
    · cases hstep
  | here _ ih =>
    rcases Advances.here.looksAt_cases hl with hl | ⟨n, rest, hsteps, -⟩
    · exact ih hl
    · cases hsteps
  | slash _ ih =>
    rcases Advances.slash.looksAt_cases hl with hl | ⟨n, rest, hsteps, -⟩
    · exact ih hl
    · cases hsteps
  | up _ _ ih =>
    rcases Advances.up.looksAt_cases hl with hl | ⟨n, rest, hsteps, -⟩
    · exact ih hl
    · cases hsteps
  | enter _ hget _ ih =>
    rcases (Advances.enter hget).looksAt_cases hl with hl | ⟨n, rest, hsteps, rfl⟩
    · exact ih hl
    · cases hsteps
      exact .inl ⟨_, hget, trivial⟩
  | follow _ hget _ hstart _ ih =>
    obtain rfl := linkStart?_eq_some hstart
    rcases (Advances.follow hget).looksAt_cases hl with hl | ⟨n, rest, hsteps, rfl⟩
    · exact ih hl
    · cases hsteps
      exact .inl ⟨_, hget, trivial⟩
  | link _ _ _ hstop => exact absurd hstop harrival
  | found _ hget hstay =>
    refine .inr (eq_of_looksAt (fun e he => ?_) hl)
    rw [hget] at he
    cases he
    exact hstay
  | free _ hget _ =>
    refine .inr (eq_of_looksAt (fun e he => ?_) hl)
    rw [hget] at he
    cases he

/-! ## Making directories -/

/-- The other tree has all directories and links of this one, and no link besides. -/
structure Fits (t w : FileTree) : Prop where
  carries : t.Carries w
  links : ∀ l target, w.get? l = some (.link target) → t.get? l = some (.link target)

theorem Fits.trans (htu : t.Fits u) (huw : u.Fits w) : t.Fits w where
  carries l e he hpass := huw.carries l e (htu.carries l e he hpass) hpass
  links l target h := htu.links l target (huw.links l target h)

theorem SetsFile.fits {content : ByteArray} (h : t.SetsFile u l content) : t.Fits u where
  carries := h.carries
  links m target hm := by
    rcases h.origin hm with ⟨-, hfile⟩ | hold | hdirectory
    · cases hfile
    · exact hold
    · cases hdirectory

theorem Fits.put_directory (h : t.Fits w) (hfree : t.get? l = none)
    (hl : ∃ e, w.get? l = some e ∧ e.Passable) : (t.put l .directory).Fits w := by
  obtain ⟨e, he, hpass⟩ := hl
  have hdirectory : w.get? l = some .directory := by
    cases e with
    | directory => exact he
    | link target =>
      rw [h.links l target he] at hfree
      cases hfree
    | file content => exact absurd hpass id
    | sink full => exact absurd hpass id
  by_cases hroom : t.HasRoom l
  · constructor
    · intro m e hm hpass
      rw [get?_put hroom] at hm
      split at hm
      · next hml =>
        cases hm
        rw [← hml, hdirectory]
      · exact h.carries m e hm hpass
    · intro m target hm
      rw [get?_put hroom]
      split
      · next hml =>
        rw [← hml, hdirectory] at hm
        cases hm
      · exact h.links m target hm
  · rwa [put_of_no_room hroom]

theorem Fits.put_file (h : t.Fits w) (hl : t.get? l = none ∨ ∃ old, t.get? l = some (.file old))
    (content : ByteArray) : (t.put l (.file content)).Fits w := by
  by_cases hroom : t.HasRoom l
  · constructor
    · intro m e hm hpass
      rw [get?_put hroom] at hm
      split at hm
      · cases hm
        exact absurd hpass id
      · exact h.carries m e hm hpass
    · intro m target hm
      have hold := h.links m target hm
      have hml : l ≠ m := by
        rintro rfl
        rcases hl with hl | ⟨old, hl⟩ <;> rw [hold] at hl <;> cases hl
      rw [get?_put hroom, if_neg hml, hold]
  · rwa [put_of_no_room hroom]

section
variable {path : String} {directory : Location} (hhere : w.get? here = some .directory)
  (hopen : w.openDirectory here path = .ok directory)
include hhere hopen

theorem makeDirectory_fits {a : String} (ha : a ∈ Path.ancestors path) (h : t.Fits w)
    (hmake : t.makeDirectory here a = .ok u) : u.Fits w := by
  unfold makeDirectory at hmake
  split at hmake
  · cases hmake
  · cases hmake
  · next l hresolve =>
    cases hmake
    obtain ⟨-, hleads⟩ := resolve_eq_ok_iff.mp hresolve
    obtain ⟨habsolute, more, hmore⟩ := Path.steps_of_mem_ancestors ha
    have hlooks := h.carries.looksAt_append (hleads.looksAt (by simp [Spot.entry?])) more
    have hstart : pathStart here a = pathStart here path := by
      unfold pathStart
      rw [habsolute]
    simp only [hstart, ← hmore] at hlooks
    obtain ⟨-, hway⟩ := resolve_eq_ok_iff.mp (openDirectory_eq_ok_iff.mp hopen)
    refine h.put_directory hleads.get?_free ?_
    rcases hway.passable (by simp) hlooks with hpass | rfl
    · exact hpass
    · exact ⟨_, get?_of_openDirectory hhere hopen, trivial⟩

theorem climb_fits (h : t.Fits w) : ∀ {above below : List String},
    (∀ a ∈ above, a ∈ Path.ancestors path) → (∀ b ∈ below, b ∈ Path.ancestors path) →
      (t.climb here above below).2.Fits w ∧
        ∀ rest, (t.climb here above below).1 = .ok rest → ∀ b ∈ rest, b ∈ Path.ancestors path
  | [], below, _, hbelow => by
    refine ⟨h, fun rest hrest => ?_⟩
    cases hrest
    exact hbelow
  | a :: above, below, habove, hbelow => by
    obtain ⟨ha, habove⟩ := List.forall_mem_cons.mp habove
    unfold climb
    split
    · next u hmake =>
      refine ⟨makeDirectory_fits hhere hopen ha h hmake, fun rest hrest => ?_⟩
      cases hrest
      exact hbelow
    · split
      · exact climb_fits h habove (List.forall_mem_cons.mpr ⟨ha, hbelow⟩)
      · split
        · refine ⟨h, fun rest hrest => ?_⟩
          cases hrest
          exact hbelow
        · refine ⟨h, fun rest hrest => ?_⟩
          cases hrest

theorem descend_fits : ∀ {t : FileTree} {below : List String}, t.Fits w →
    (∀ b ∈ below, b ∈ Path.ancestors path) → (t.descend here below).2.Fits w
  | t, [], h, _ => h
  | t, b :: below, h, hbelow => by
    obtain ⟨hb, hbelow⟩ := List.forall_mem_cons.mp hbelow
    unfold descend
    split
    · next u hmake => exact descend_fits (makeDirectory_fits hhere hopen hb h hmake) hbelow
    · split
      · exact descend_fits h hbelow
      · exact h

theorem makeDirectories_fits (h : t.Fits w) : (t.makeDirectories here path).2.Fits w := by
  have hnone : ∀ b ∈ ([] : List String), b ∈ Path.ancestors path := by simp
  have hclimb := climb_fits hhere hopen h (fun a ha => ha) hnone
  unfold makeDirectories
  split
  · next hstop =>
    rw [hstop] at hclimb
    exact hclimb.1
  · next below u hgo =>
    rw [hgo] at hclimb
    exact descend_fits hhere hopen hclimb.1 (hclimb.2 below rfl)

end

end Overloads.FileTree
