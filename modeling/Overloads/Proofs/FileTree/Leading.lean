import Overloads.FileTree.Walk

/-!
# Where walks lead

A walk that succeeds passes through directories and links and ends at a spot.
`Leads` says so step by step, without the order in which a walk looks at
things, and agrees with `walk` (`walk_eq_ok_iff`). A tree that has all
directories and links of another one leads every walk the same way
(`Leads.carry`), whatever else has changed.
-/

namespace Overloads

def Entry.Passable : Entry → Prop
  | .directory | .link _ => True
  | .file _ | .sink _ => False

def Spot.location : Spot → Location
  | .entry l _ | .free l => l

def Spot.entry? : Spot → Option Entry
  | .entry _ e => some e
  | .free _ => none

namespace FileTree

/-- Where the target of a link starts; from a floor no target leads to the root. -/
def linkStart? (floor : Option Location) (cur : Location) (target : String) : Option Location :=
  if Path.isAbsolute target then (if floor.isSome then none else some []) else some cur

/-- A name is short enough, and no walk that is to make a file has a slash behind it. -/
def Admits (arrival : Arrival) (n : String) (rest : List Step) : Prop :=
  ¬ (arrival = .make ∧ rest = [.slash]) ∧ n.utf8ByteSize ≤ longestName

section
variable (t : FileTree) (floor : Option Location) (arrival : Arrival)

inductive Leads : Nat → Location → List Step → Spot → Prop
  | done (links : Nat) (cur : Location) : Leads links cur [] (.entry cur .directory)
  | here {links cur rest s} : Leads links cur rest s → Leads links cur (.here :: rest) s
  | slash {links cur rest s} : Leads links cur rest s → Leads links cur (.slash :: rest) s
  | up {links cur rest s} : floor ≠ some cur → Leads links cur.dropLast rest s →
      Leads links cur (.up :: rest) s
  | enter {links cur n rest s} : Admits arrival n rest → t.get? (cur ++ [n]) = some .directory →
      Leads links (cur ++ [n]) rest s → Leads links cur (.name n :: rest) s
  | follow {links cur start n target rest s} : Admits arrival n rest →
      t.get? (cur ++ [n]) = some (.link target) → ¬ (atEnd rest ∧ arrival = .stop) →
      linkStart? floor cur target = some start → Leads links start (Path.steps target ++ rest) s →
      Leads (links + 1) cur (.name n :: rest) s
  | link {links cur n target rest} : Admits arrival n rest →
      t.get? (cur ++ [n]) = some (.link target) → atEnd rest → arrival = .stop →
      Leads links cur (.name n :: rest) (.entry (cur ++ [n]) (.link target))
  | found {links cur n e} : Admits arrival n [] → t.get? (cur ++ [n]) = some e → ¬ e.Passable →
      Leads links cur [.name n] (.entry (cur ++ [n]) e)
  | free {links cur n rest} : Admits arrival n rest → t.get? (cur ++ [n]) = none → atEnd rest →
      Leads links cur (.name n :: rest) (.free (cur ++ [n]))

/-! ## One step of a walk -/

def jump (links : Nat) (cur : Location) (target : String) (rest : List Step) :
    Except SystemError Spot :=
  match links with
  | 0 => .error .tooManyLinks
  | links + 1 => match linkStart? floor cur target with
    | none => .error .escape
    | some start => walk t floor arrival links start (Path.steps target ++ rest)

theorem walk_eq_stroll (links : Nat) :
    walk t floor arrival links = stroll t floor arrival (jump t floor arrival links) := by
  cases links with
  | zero => rfl
  | succ links =>
    rw [walk]
    congr 1
    funext cur target rest
    cases floor <;> by_cases h : Path.isAbsolute target <;> simp [jump, linkStart?, h]

theorem walk_nil (links : Nat) (cur : Location) :
    walk t floor arrival links cur [] = .ok (.entry cur .directory) := by
  rw [walk_eq_stroll, stroll]

theorem walk_here (links : Nat) (cur : Location) (rest : List Step) :
    walk t floor arrival links cur (.here :: rest) = walk t floor arrival links cur rest := by
  rw [walk_eq_stroll, stroll]

theorem walk_slash (links : Nat) (cur : Location) (rest : List Step) :
    walk t floor arrival links cur (.slash :: rest) = walk t floor arrival links cur rest := by
  rw [walk_eq_stroll, stroll]

theorem walk_up (links : Nat) (cur : Location) (rest : List Step) :
    walk t floor arrival links cur (.up :: rest) =
      if floor = some cur then .error .escape
      else walk t floor arrival links cur.dropLast rest := by
  rw [walk_eq_stroll, stroll]

theorem walk_name {n : String} {rest : List Step} (h : Admits arrival n rest) (links : Nat)
    (cur : Location) :
    walk t floor arrival links cur (.name n :: rest) =
      match t.get? (cur ++ [n]) with
      | some .directory => walk t floor arrival links (cur ++ [n]) rest
      | some (.link target) =>
        if atEnd rest ∧ arrival = .stop then .ok (.entry (cur ++ [n]) (.link target))
        else jump t floor arrival links cur target rest
      | some e => if rest = [] then .ok (.entry (cur ++ [n]) e) else .error .notDirectory
      | none => if atEnd rest then .ok (.free (cur ++ [n])) else .error .missing := by
  rw [walk_eq_stroll, stroll, if_neg h.1]
  exact if_neg (Nat.not_lt.mpr h.2)

/-! ## Walks that succeed -/

theorem admits_of_walk {links : Nat} {cur : Location} {n : String} {rest : List Step} {s : Spot}
    (h : walk t floor arrival links cur (.name n :: rest) = .ok s) : Admits arrival n rest := by
  rw [walk_eq_stroll, stroll] at h
  split at h
  · cases h
  · next hslash =>
    split at h
    · cases h
    · next hlong => exact ⟨hslash, Nat.not_lt.mp hlong⟩

theorem leads_of_walk : ∀ (links : Nat) (cur : Location) (steps : List Step) {s : Spot},
    walk t floor arrival links cur steps = .ok s → Leads t floor arrival links cur steps s
  | links, cur, [], s, h => by
    rw [walk_nil] at h
    cases h
    exact .done links cur
  | links, cur, .here :: rest, s, h => by
    rw [walk_here] at h
    exact .here (leads_of_walk links cur rest h)
  | links, cur, .slash :: rest, s, h => by
    rw [walk_slash] at h
    exact .slash (leads_of_walk links cur rest h)
  | links, cur, .up :: rest, s, h => by
    rw [walk_up] at h
    split at h
    · cases h
    · next hfloor => exact .up hfloor (leads_of_walk links cur.dropLast rest h)
  | links, cur, .name n :: rest, s, h => by
    have hn := admits_of_walk t floor arrival h
    rw [walk_name t floor arrival hn] at h
    split at h
    · next hget => exact .enter hn hget (leads_of_walk links (cur ++ [n]) rest h)
    · next target hget =>
      split at h
      · next hstop =>
        cases h
        exact .link hn hget hstop.1 hstop.2
      · next hgo =>
        cases links with
        | zero => cases h
        | succ links =>
          simp only [jump] at h
          split at h
          · cases h
          · next start hstart =>
            exact .follow hn hget hgo hstart (leads_of_walk links start _ h)
    · next e hdirectory hlink hget =>
      split at h
      · next hrest =>
        cases h
        subst hrest
        refine .found hn hget ?_
        cases e with
        | directory => exact absurd rfl hdirectory
        | link target => exact absurd rfl (hlink target)
        | file content => exact id
        | sink full => exact id
      · cases h
    · next hget =>
      split at h
      · next hend =>
        cases h
        exact .free hn hget hend
      · cases h
termination_by links _ steps => (links, steps.length)

theorem walk_of_leads {links : Nat} {cur : Location} {steps : List Step} {s : Spot}
    (h : Leads t floor arrival links cur steps s) :
    walk t floor arrival links cur steps = .ok s := by
  induction h with
  | done links cur => exact walk_nil t floor arrival links cur
  | here _ ih => rw [walk_here, ih]
  | slash _ ih => rw [walk_slash, ih]
  | up hfloor _ ih => rw [walk_up, if_neg hfloor, ih]
  | enter hn hget _ ih =>
    rw [walk_name t floor arrival hn, hget]
    exact ih
  | follow hn hget hgo hstart _ ih =>
    rw [walk_name t floor arrival hn, hget]
    simp only [if_neg hgo, jump, hstart]
    exact ih
  | link hn hget hend hstop =>
    rw [walk_name t floor arrival hn, hget]
    exact if_pos ⟨hend, hstop⟩
  | @found links cur n e hn hget hpass =>
    rw [walk_name t floor arrival hn, hget]
    cases e with
    | directory => exact absurd trivial hpass
    | link target => exact absurd trivial hpass
    | file content => rfl
    | sink full => rfl
  | free hn hget hend =>
    rw [walk_name t floor arrival hn, hget]
    exact if_pos hend

theorem walk_eq_ok_iff {links : Nat} {cur : Location} {steps : List Step} {s : Spot} :
    walk t floor arrival links cur steps = .ok s ↔ Leads t floor arrival links cur steps s :=
  ⟨leads_of_walk t floor arrival links cur steps, walk_of_leads t floor arrival⟩

end

/-! ## Spots -/

section
variable {t : FileTree} {floor : Option Location} {arrival : Arrival} {links : Nat}
  {cur : Location} {steps : List Step} {s : Spot}

theorem get?_linkStart {start : Location} {target : String}
    (hcur : t.get? cur = some .directory) (h : linkStart? floor cur target = some start) :
    t.get? start = some .directory := by
  simp only [linkStart?] at h
  split at h
  · split at h
    · cases h
    · cases h; exact t.get?_root
  · cases h; exact hcur

/-- What a walk finds stands in the tree, and in a directory of it unless it is one itself. -/
theorem Leads.get?_location (h : t.Leads floor arrival links cur steps s)
    (hcur : t.get? cur = some .directory) :
    t.get? s.location = s.entry? ∧
      (s.entry? ≠ some .directory → t.HasRoom s.location) := by
  have room : ∀ {cur : Location} {n : String}, t.get? cur = some .directory →
      t.get? (cur ++ [n]) ≠ some .directory → t.HasRoom (cur ++ [n]) := by
    intro cur n hcur hn
    refine ⟨by simp, ?_, hn⟩
    rwa [List.dropLast_concat]
  induction h with
  | done links cur => exact ⟨hcur, fun h => absurd rfl h⟩
  | here _ ih => exact ih hcur
  | slash _ ih => exact ih hcur
  | up _ _ ih => exact ih (get?_dropLast hcur)
  | enter _ hget _ ih => exact ih hget
  | follow _ _ _ hstart _ ih => exact ih (get?_linkStart hcur hstart)
  | link _ hget _ _ => exact ⟨hget, fun _ => room hcur (by simp [hget])⟩
  | found _ hget _ => exact ⟨hget, fun h => room hcur (by rw [hget]; exact h)⟩
  | free _ hget _ => exact ⟨hget, fun _ => room hcur (by simp [hget])⟩

theorem Leads.get?_free {l : Location} (h : t.Leads floor arrival links cur steps (.free l)) :
    t.get? l = none := by
  generalize hs : Spot.free l = s at h
  induction h with
  | here _ ih | slash _ ih | up _ _ ih | enter _ _ _ ih | follow _ _ _ _ _ ih => exact ih hs
  | free _ hget _ => cases hs; exact hget
  | done | link | found => cases hs

/-! ## The same way through another tree -/

/-- All directories and links stand in the other tree too. -/
def Carries (t u : FileTree) : Prop :=
  ∀ l e, t.get? l = some e → e.Passable → u.get? l = some e

/-- A walk leads to the same place in a tree with the same directories and links, if something is
found at its end there. -/
theorem Leads.carry {u : FileTree} {e : Entry} (h : t.Leads floor arrival links cur steps s)
    (hcur : t.get? cur = some .directory) (hu : t.Carries u) (he : u.get? s.location = some e)
    (hpass : e.Passable → s.entry? = some e) (hfree : s.entry? = none → arrival = .make) :
    u.Leads floor arrival links cur steps (.entry s.location e) := by
  induction h with
  | done links cur =>
    have := hu _ _ hcur trivial
    rw [Spot.location, this] at he
    cases he
    exact .done links cur
  | here _ ih => exact .here (ih hcur he hpass hfree)
  | slash _ ih => exact .slash (ih hcur he hpass hfree)
  | up hfloor _ ih => exact .up hfloor (ih (get?_dropLast hcur) he hpass hfree)
  | enter hn hget _ ih => exact .enter hn (hu _ _ hget trivial) (ih hget he hpass hfree)
  | follow hn hget hgo hstart _ ih =>
    exact .follow hn (hu _ _ hget trivial) hgo hstart
      (ih (get?_linkStart hcur hstart) he hpass hfree)
  | link hn hget hend hstop =>
    have := hu _ _ hget trivial
    rw [Spot.location, this] at he
    cases he
    exact .link hn this hend hstop
  | found hn hget hstay =>
    refine .found hn he fun hp => hstay ?_
    have := hpass hp
    cases this
    exact hp
  | @free links cur n rest hn hget hend =>
    -- a walk that is to make a file has nothing left behind the name
    have hrest : rest = [] := by
      have := hn.1
      simp only [atEnd, Bool.or_eq_true, decide_eq_true_eq] at hend
      exact hend.resolve_right fun h => this ⟨hfree rfl, h⟩
    subst hrest
    refine .found hn he fun hp => ?_
    cases hpass hp

theorem Leads.follow_of_make (h : t.Leads floor .make links cur steps s) :
    t.Leads floor .follow links cur steps s := by
  have admits : ∀ {n : String} {rest : List Step}, Admits .make n rest → Admits .follow n rest :=
    fun h => ⟨by simp, h.2⟩
  induction h with
  | done links cur => exact .done links cur
  | here _ ih => exact .here ih
  | slash _ ih => exact .slash ih
  | up hfloor _ ih => exact .up hfloor ih
  | enter hn hget _ ih => exact .enter (admits hn) hget ih
  | follow hn hget _ hstart _ ih => exact .follow (admits hn) hget (by simp) hstart ih
  | link _ _ _ hstop => cases hstop
  | found hn hget hstay => exact .found (admits hn) hget hstay
  | free hn hget hend => exact .free (admits hn) hget hend

def EndsInName (steps : List Step) : Prop := ∃ last, steps.getLast? = some last ∧ last ≠ .slash

theorem EndsInName.cons {rest : List Step} (h : EndsInName rest) (step : Step) :
    EndsInName (step :: rest) := by
  obtain ⟨last, hlast, hslash⟩ := h
  exact ⟨last, by rw [List.getLast?_cons, hlast, Option.getD_some], hslash⟩

theorem EndsInName.admits {n : String} {rest : List Step} (h : EndsInName rest)
    (hn : Admits arrival n rest) : Admits .make n rest := by
  refine ⟨?_, hn.2⟩
  rintro ⟨-, rfl⟩
  obtain ⟨last, hlast, hslash⟩ := h
  exact hslash (Option.some.inj hlast).symm

/-- A walk to what no walk goes through could as well be one to make a file. -/
theorem Leads.make_of_follow {e : Entry} (h : t.Leads floor .follow links cur steps s)
    (hs : s.entry? = some e) (he : ¬ e.Passable) :
    t.Leads floor .make links cur steps s ∧ EndsInName steps := by
  induction h with
  | done links cur =>
    cases hs
    exact absurd trivial he
  | here _ ih => exact ⟨.here (ih hs).1, (ih hs).2.cons _⟩
  | slash _ ih => exact ⟨.slash (ih hs).1, (ih hs).2.cons _⟩
  | up hfloor _ ih => exact ⟨.up hfloor (ih hs).1, (ih hs).2.cons _⟩
  | enter hn hget _ ih =>
    obtain ⟨hmake, hends⟩ := ih hs
    exact ⟨.enter (hends.admits hn) hget hmake, hends.cons _⟩
  | @follow _ _ _ n _ rest _ hn hget _ hstart _ ih =>
    obtain ⟨hmake, hends⟩ := ih hs
    -- what stands behind the target stands behind the name
    have hrest : rest = [] ∨ EndsInName rest := by
      rcases List.eq_nil_or_concat rest with rfl | ⟨before, last, rfl⟩
      · exact .inl rfl
      · refine .inr ?_
        simpa [EndsInName] using hends
    rcases hrest with rfl | hrest
    · exact ⟨.follow ⟨by simp, hn.2⟩ hget (by simp) hstart hmake, .name n, rfl, by simp⟩
    · exact ⟨.follow (hrest.admits hn) hget (by simp) hstart hmake, hrest.cons _⟩
  | link _ _ _ hstop => cases hstop
  | @found _ _ n _ hn hget hstay =>
    exact ⟨.found ⟨by simp, hn.2⟩ hget hstay, .name n, rfl, by simp⟩
  | free => cases hs

/-! ## Questions to the system -/

structure IsAskable (path : String) : Prop where
  no_nul : '\x00' ∉ path.toList
  ne_empty : path ≠ ""
  short : path.utf8ByteSize ≤ longestPath

def pathStart (here : Location) (path : String) : Location :=
  if Path.isAbsolute path then [] else here

theorem get?_pathStart {here : Location} (h : t.get? here = some .directory) (path : String) :
    t.get? (pathStart here path) = some .directory := by
  unfold pathStart
  split
  · exact t.get?_root
  · exact h

theorem resolve_eq_ok_iff {here : Location} {path : String} :
    t.resolve here arrival path = .ok s ↔
      IsAskable path ∧
        t.Leads none arrival mostLinks (pathStart here path) (Path.steps path) s := by
  simp only [resolve, trace, List.contains_iff_mem]
  constructor
  · intro h
    split at h
    · cases h
    · next hlong =>
      split at h
      · cases h
      · next hnul =>
        split at h
        · cases h
        · next hempty =>
          have hshort := Nat.not_lt.mp fun hlt => hlong ⟨hlt, hnul⟩
          exact ⟨⟨hnul, hempty, hshort⟩, leads_of_walk t none arrival _ _ _ h⟩
  · rintro ⟨ha, h⟩
    rw [if_neg fun h => Nat.not_lt.mpr ha.short h.1, if_neg ha.no_nul, if_neg ha.ne_empty]
    exact walk_of_leads t none arrival h

theorem resolveBeneath_eq_ok_iff {directory : Location} {name : String} :
    t.resolveBeneath directory arrival name = .ok s ↔
      '\x00' ∉ name.toList ∧
        t.Leads (some directory) arrival mostLinks directory [.name name] s := by
  simp only [resolveBeneath, List.contains_iff_mem, ← walk_eq_ok_iff]
  split
  · next hnul => simp [hnul]
  · next hnul => simp [hnul]

theorem openDirectory_eq_ok_iff {here l : Location} {path : String} :
    t.openDirectory here path = .ok l ↔
      t.resolve here .follow path = .ok (.entry l .directory) := by
  unfold openDirectory
  split
  · next e he => simp [he]
  · next m hm => simp [hm]
  · next m e he hm =>
    simp only [hm, Except.ok.injEq, Spot.entry.injEq, reduceCtorEq, false_iff, not_and]
    exact fun _ h => he h
  · next m hm => simp [hm]

theorem get?_of_openDirectory {here l : Location} {path : String}
    (hhere : t.get? here = some .directory) (h : t.openDirectory here path = .ok l) :
    t.get? l = some .directory := by
  obtain ⟨-, hleads⟩ := resolve_eq_ok_iff.mp (openDirectory_eq_ok_iff.mp h)
  exact (hleads.get?_location (get?_pathStart hhere path)).1

theorem Carries.openDirectory {u : FileTree} {here l : Location} {path : String}
    (hu : t.Carries u) (hhere : t.get? here = some .directory)
    (h : t.openDirectory here path = .ok l) : u.openDirectory here path = .ok l := by
  have hl := hu _ _ (get?_of_openDirectory hhere h) trivial
  obtain ⟨ha, hleads⟩ := resolve_eq_ok_iff.mp (openDirectory_eq_ok_iff.mp h)
  have hleads := hleads.carry (get?_pathStart hhere path) hu hl (fun _ => rfl) (fun h => by cases h)
  exact openDirectory_eq_ok_iff.mpr (resolve_eq_ok_iff.mpr ⟨ha, hleads⟩)

end

end FileTree

end Overloads
