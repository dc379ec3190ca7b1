import Mathlib.Data.List.Induction
import Mathlib.Logic.Relation
import Overloads.Proofs.FileTree.Leading

/-!
# Walks step by step

`Advances` takes one step of a walk, wherever it leads and however many links were followed
before. A walk beneath a directory ends beneath it (`Leads.beneath`), and it fails where its
steps come to a link to an absolute path or to a step out of that directory
(`refused_of_strays`). What a walk answers depends on nothing but the locations that it looks
at (`walk_congr`).
-/

namespace Overloads.FileTree

abbrev Course := Location × List Step

section
variable (t : FileTree)

inductive Advances : Course → Course → Prop
  | here {cur rest} : Advances (cur, .here :: rest) (cur, rest)
  | slash {cur rest} : Advances (cur, .slash :: rest) (cur, rest)
  | up {cur rest} : Advances (cur, .up :: rest) (cur.dropLast, rest)
  | enter {cur n rest} : t.get? (cur ++ [n]) = some .directory →
      Advances (cur, .name n :: rest) (cur ++ [n], rest)
  | follow {cur n target rest} : t.get? (cur ++ [n]) = some (.link target) →
      Advances (cur, .name n :: rest) (pathStart cur target, Path.steps target ++ rest)

abbrev Passes : Course → Course → Prop := Relation.ReflTransGen t.Advances

/-- The next step follows a link to an absolute path, or it leads out of the directory. -/
inductive Strays (floor : Location) : Course → Prop
  | absolute {cur n target rest} : t.get? (cur ++ [n]) = some (.link target) →
      Path.isAbsolute target = true → Strays floor (cur, .name n :: rest)
  | above {rest} : Strays floor (floor, .up :: rest)

def LooksAt (c : Course) (l : Location) : Prop :=
  ∃ cur n rest, t.Passes c (cur, .name n :: rest) ∧ l = cur ++ [n]

end

variable {t u : FileTree} {floor : Option Location} {arrival : Arrival} {links : Nat}
  {cur : Location} {steps : List Step} {s : Spot}

theorem walk_of_not_admits {n : String} {rest : List Step} (h : ¬ Admits arrival n rest)
    (t : FileTree) (floor : Option Location) (links : Nat) (cur : Location) :
    walk t floor arrival links cur (.name n :: rest) =
      .error (if arrival = .make ∧ rest = [.slash] then .isDirectory else .nameTooLong) := by
  rw [walk_eq_stroll, stroll]
  by_cases hslash : arrival = .make ∧ rest = [.slash]
  · rw [if_pos hslash, if_pos hslash]
  · have hlong : longestName < n.utf8ByteSize := Nat.not_le.mp fun hn => h ⟨hslash, hn⟩
    rw [if_neg hslash, if_neg hslash, if_pos hlong]

theorem linkStart?_eq_some {start : Location} {target : String}
    (h : linkStart? floor cur target = some start) : start = pathStart cur target := by
  simp only [linkStart?] at h
  by_cases habsolute : Path.isAbsolute target = true
  · rw [if_pos habsolute] at h
    split at h <;> cases h
    exact (if_pos habsolute).symm
  · rw [if_neg habsolute] at h
    cases h
    exact (if_neg habsolute).symm

/-! ## Beneath a directory -/

theorem get?_of_prefix {m : Location} : ∀ {l : Location} {e : Entry}, t.get? l = some e →
    m <+: l → m ≠ l → t.get? m = some .directory := by
  intro l
  induction l using List.reverseRecOn with
  | nil =>
    intro e _ hprefix hne
    exact absurd (List.prefix_nil.mp hprefix) hne
  | append_singleton l n ih =>
    intro e he hprefix hne
    have hl := get?_dropLast he
    rw [List.dropLast_concat] at hl
    rcases List.prefix_concat_iff.mp hprefix with rfl | hprefix
    · exact absurd rfl hne
    · by_cases hml : m = l
      · rw [hml, hl]
      · exact ih hl hprefix hml

theorem Leads.beneath {directory : Location}
    (h : t.Leads (some directory) arrival links cur steps s) (hcur : directory <+: cur) :
    directory <+: s.location := by
  induction h with
  | done links cur => exact hcur
  | here _ ih | slash _ ih => exact ih hcur
  | @up _ cur _ _ hfloor _ ih =>
    refine ih ?_
    rcases List.eq_nil_or_concat cur with rfl | ⟨above, n, rfl⟩
    · exact hcur
    · rw [List.concat_eq_append, List.prefix_concat_iff] at hcur
      rcases hcur with rfl | hcur
      · simp at hfloor
      · simpa using hcur
  | enter _ _ _ ih => exact ih (hcur.trans (List.prefix_append _ _))
  | @follow _ cur start _ target _ _ _ _ _ hstart _ ih =>
    refine ih ?_
    simp only [linkStart?] at hstart
    split at hstart
    · cases hstart
    · cases hstart
      exact hcur
  | link | found | free => exact hcur.trans (List.prefix_append _ _)

/-- An answer that does not speak of something missing. -/
def Refused {α : Type} (x : Except SystemError α) : Prop := ∃ e, x = .error e ∧ e ≠ .missing

theorem refused_error {α : Type} {e : SystemError} (h : e ≠ .missing) :
    Refused (.error e : Except SystemError α) := ⟨e, rfl, h⟩

theorem refused_of_not_admits {n : String} {rest : List Step} (h : ¬ Admits arrival n rest) :
    Refused (walk t floor arrival links cur (.name n :: rest)) := by
  rw [walk_of_not_admits h]
  split <;> exact refused_error (by decide)

section
variable {directory : Location} (harrival : arrival ≠ .stop)
include harrival

theorem walk_link {n target : String} {rest : List Step} (hn : Admits arrival n rest)
    (hget : t.get? (cur ++ [n]) = some (.link target)) :
    walk t floor arrival links cur (.name n :: rest) =
      jump t floor arrival links cur target rest := by
  rw [walk_name t floor arrival hn, hget]
  exact if_neg fun h => harrival h.2

theorem refused_of_advances {c c' : Course} (h : t.Advances c c')
    (hc' : ∀ links, Refused (walk t (some directory) arrival links c'.1 c'.2)) (links : Nat) :
    Refused (walk t (some directory) arrival links c.1 c.2) := by
  cases h with
  | here => rw [walk_here]; exact hc' links
  | slash => rw [walk_slash]; exact hc' links
  | up =>
    rw [walk_up]
    split
    · exact refused_error (by decide)
    · exact hc' links
  | @enter cur n rest hget =>
    by_cases hn : Admits arrival n rest
    · rw [walk_name t _ arrival hn, hget]
      exact hc' links
    · exact refused_of_not_admits hn
  | @follow cur n target rest hget =>
    by_cases hn : Admits arrival n rest
    · rw [walk_link harrival hn hget]
      cases links with
      | zero => exact refused_error (by decide)
      | succ links =>
        rw [jump]
        cases hstart : linkStart? (some directory) cur target with
        | none => exact refused_error (by decide)
        | some start =>
          obtain rfl := linkStart?_eq_some hstart
          exact hc' links
    · exact refused_of_not_admits hn

theorem refused_of_strays {c c' : Course} (h : t.Passes c c') (hc' : t.Strays directory c') :
    ∀ links, Refused (walk t (some directory) arrival links c.1 c.2) := by
  induction h using Relation.ReflTransGen.head_induction_on with
  | refl =>
    intro links
    cases hc' with
    | @absolute cur n target rest hget htarget =>
      by_cases hn : Admits arrival n rest
      · rw [walk_link harrival hn hget]
        cases links with
        | zero => exact refused_error (by decide)
        | succ links =>
          simp only [jump, linkStart?, htarget, Option.isSome_some, if_true]
          exact refused_error (by decide)
      · exact refused_of_not_admits hn
    | above =>
      rw [walk_up, if_pos rfl]
      exact refused_error (by decide)
  | head hstep _ ih => exact refused_of_advances harrival hstep ih

end

/-! ## What a walk looks at -/

theorem LooksAt.of_advances {c c' : Course} {l : Location} (h : t.Advances c c')
    (hl : t.LooksAt c' l) : t.LooksAt c l := by
  obtain ⟨cur, n, rest, hpass, rfl⟩ := hl
  exact ⟨cur, n, rest, hpass.head h, rfl⟩

theorem looksAt_name (t : FileTree) (cur : Location) (n : String) (rest : List Step) :
    t.LooksAt (cur, .name n :: rest) (cur ++ [n]) := ⟨cur, n, rest, .refl, rfl⟩

theorem eq_of_looksAt {n : String} {rest : List Step} {l : Location}
    (hstop : ∀ e, t.get? (cur ++ [n]) = some e → ¬ e.Passable)
    (h : t.LooksAt (cur, .name n :: rest) l) : l = cur ++ [n] := by
  obtain ⟨_, _, _, hpass, rfl⟩ := h
  rcases hpass.cases_head with heq | ⟨_, hstep, -⟩
  · cases heq
    rfl
  · cases hstep with
    | enter hget => exact absurd trivial (hstop _ hget)
    | follow hget => exact absurd trivial (hstop _ hget)

theorem Leads.looksAt (h : t.Leads floor arrival links cur steps s)
    (hs : s.entry? ≠ some .directory) : t.LooksAt (cur, steps) s.location := by
  induction h with
  | done links cur => exact absurd rfl hs
  | here _ ih => exact (ih hs).of_advances .here
  | slash _ ih => exact (ih hs).of_advances .slash
  | up _ _ ih => exact (ih hs).of_advances .up
  | enter _ hget _ ih => exact (ih hs).of_advances (.enter hget)
  | follow _ hget _ hstart _ ih =>
    obtain rfl := linkStart?_eq_some hstart
    exact (ih hs).of_advances (.follow hget)
  | link | found | free => exact looksAt_name t _ _ _

/-- A walk answers the same in a tree that has the same at all the locations it looks at. -/
theorem walk_congr (floor : Option Location) (arrival : Arrival) :
    ∀ (links : Nat) (cur : Location) (steps : List Step),
      (∀ l, t.LooksAt (cur, steps) l → u.get? l = t.get? l) →
      walk u floor arrival links cur steps = walk t floor arrival links cur steps
  | links, cur, [], _ => by rw [walk_nil, walk_nil]
  | links, cur, .here :: rest, h => by
    rw [walk_here, walk_here]
    exact walk_congr floor arrival links cur rest fun l hl => h l (hl.of_advances .here)
  | links, cur, .slash :: rest, h => by
    rw [walk_slash, walk_slash]
    exact walk_congr floor arrival links cur rest fun l hl => h l (hl.of_advances .slash)
  | links, cur, .up :: rest, h => by
    rw [walk_up, walk_up,
      walk_congr floor arrival links cur.dropLast rest fun l hl => h l (hl.of_advances .up)]
  | links, cur, .name n :: rest, h => by
    by_cases hn : Admits arrival n rest
    · rw [walk_name u floor arrival hn, walk_name t floor arrival hn,
        h _ (looksAt_name t cur n rest)]
      cases hget : t.get? (cur ++ [n]) with
      | none => rfl
      | some e =>
        cases e with
        | directory =>
          exact walk_congr floor arrival links (cur ++ [n]) rest fun l hl =>
            h l (hl.of_advances (.enter hget))
        | link target =>
          have hjump : jump u floor arrival links cur target rest =
              jump t floor arrival links cur target rest := by
            cases links with
            | zero => rfl
            | succ links =>
              simp only [jump]
              cases hstart : linkStart? floor cur target with
              | none => rfl
              | some start =>
                obtain rfl := linkStart?_eq_some hstart
                exact walk_congr floor arrival links _ _ fun l hl =>
                  h l (hl.of_advances (.follow hget))
          simp only [hjump]
        | file content => rfl
        | sink full => rfl
    · rw [walk_of_not_admits hn, walk_of_not_admits hn]
termination_by links _ steps => (links, steps.length)

section
variable {here : Location} {path : String}
  (h : ∀ l, t.LooksAt (pathStart here path, Path.steps path) l → u.get? l = t.get? l)
include h

theorem trace_congr (arrival : Arrival) :
    u.trace here arrival path = t.trace here arrival path := by
  have hwalk := walk_congr none arrival mostLinks _ _ h
  rw [pathStart] at hwalk
  simp only [trace, hwalk]

theorem resolve_congr (arrival : Arrival) :
    u.resolve here arrival path = t.resolve here arrival path := by
  simp only [resolve, trace_congr h arrival]

end

end Overloads.FileTree
