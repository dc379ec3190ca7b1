import Overloads.Proofs.FileTree.Passing
import Overloads.Settings.Load

/-!
# What loading looks at

Loading looks for settings files at some places, and it goes on from a file to the one that this
extends. What it gives depends on nothing but what stands where these walks look (`load_congr`).
The list of all regular files, which bounds the chains, has no part in it: it decides only whether a
file was there before (`Unused`).
-/

namespace Overloads

open FileTree

/-! ## Regular files -/

theorem Entries.find_of_mem {l : Location} {e : Entry} : ∀ {es : List (Location × Entry)},
    Ordered es → (l, e) ∈ es → find es l = some e
  | (k, x) :: es, ho, h => by
    obtain ⟨hk, ho⟩ := List.pairwise_cons.mp ho
    rcases List.mem_cons.mp h with heq | h
    · cases heq
      simp [find]
    · have hne : k ≠ l := fun heq => List.lt_irrefl k (heq ▸ hk _ h : k < k)
      rw [find, if_neg hne, find_of_mem ho h]

theorem FileTree.mem_entries_iff {t : FileTree} {l : Location} {e : Entry} :
    (l, e) ∈ t.entries ↔ l ≠ [] ∧ t.get? l = some e := by
  constructor
  · intro h
    have hfind := Entries.find_of_mem t.ordered h
    have hl := (t.rooted l e hfind).1
    exact ⟨hl, by rw [t.get?_of_ne hl, hfind]⟩
  · rintro ⟨hl, h⟩
    rw [t.get?_of_ne hl] at h
    exact Entries.mem_of_find h

namespace SettingsFile

abbrev Found := Location × ByteArray

def IsIn (f : Found) (t : FileTree) : Prop := t.get? f.1 = some (.file f.2)

theorem mem_regularFiles {t : FileTree} {l : Location} :
    l ∈ regularFiles t ↔ ∃ content, IsIn (l, content) t := by
  simp only [regularFiles, List.mem_filterMap, IsIn]
  constructor
  · rintro ⟨⟨k, e⟩, hmem, hk⟩
    cases e <;> cases hk
    exact ⟨_, (mem_entries_iff.mp hmem).2⟩
  · rintro ⟨content, h⟩
    have hl : l ≠ [] := by
      rintro rfl
      cases h
    exact ⟨_, mem_entries_iff.mpr ⟨hl, h⟩, rfl⟩

theorem nodup_regularFiles (t : FileTree) : (regularFiles t).Nodup := by
  refine List.Pairwise.filterMap _ (fun p q hpq l hl m hm => ?_) t.ordered
  obtain ⟨k, x⟩ := p
  obtain ⟨k', x'⟩ := q
  cases x <;> cases hl
  cases x' <;> cases hm
  rintro rfl
  exact List.lt_irrefl _ hpq

/-- Of the regular files these are the ones that are not yet part of the chain. -/
structure Unused (t : FileTree) (others before : List Location) : Prop where
  nodup : others.Nodup
  mem_iff : ∀ f, IsIn f t → (f.1 ∈ others ↔ f.1 ∉ before)

theorem unused_regularFiles (t : FileTree) : Unused t (regularFiles t) [] :=
  ⟨nodup_regularFiles t, fun f hf => by simp [mem_regularFiles.mpr ⟨f.2, hf⟩]⟩

theorem Unused.erase {t : FileTree} {others before : List Location} (h : Unused t others before)
    (file : Location) : Unused t (others.erase file) (file :: before) := by
  refine ⟨h.nodup.erase file, fun f hf => ?_⟩
  rw [h.nodup.mem_erase_iff, h.mem_iff f hf]
  simp

/-! ## Chains -/

def target? (f : Found) : Option String :=
  match (decode (f.1.getLastD "") f.2).bind extended? with
  | .ok (some path) => some (pathIn (Location.path f.1.dropLast) path)
  | _ => none

def Extends (t : FileTree) (f f' : Found) : Prop :=
  ∃ target, target? f = some target ∧ t.trace [] .follow target = .ok (.entry f'.1 (.file f'.2))

def PathLooksAt (t : FileTree) (here : Location) (path : String) (l : Location) : Prop :=
  t.LooksAt (pathStart here path, Path.steps path) l

/-- A walk to a file that this one extends, at once or through others, looks there. -/
def ChainLooksAt (t : FileTree) (f : Found) (l : Location) : Prop :=
  ∃ f' target, Relation.ReflTransGen (Extends t) f f' ∧ target? f' = some target ∧
    PathLooksAt t [] target l

variable {t u : FileTree} {here : Location}

theorem eq_of_pathLooksAt {path n : String} {rest : List Step} {l : Location}
    (hsteps : Path.steps path = .name n :: rest)
    (hstop : ∀ e, t.get? (pathStart here path ++ [n]) = some e → ¬ e.Passable)
    (h : PathLooksAt t here path l) : l = pathStart here path ++ [n] := by
  rw [PathLooksAt, hsteps] at h
  exact eq_of_looksAt hstop h

/-- A chain goes from a file to the next one, if there is one. -/
theorem chainLooksAt_iff {f : Found} {l : Location} :
    ChainLooksAt t f l ↔ ∃ target, target? f = some target ∧
      (PathLooksAt t [] target l ∨
        ∃ f' : Found, t.trace [] .follow target = .ok (.entry f'.1 (.file f'.2)) ∧
          ChainLooksAt t f' l) := by
  constructor
  · rintro ⟨last, target, hchain, htarget, hl⟩
    rcases hchain.cases_head with rfl | ⟨f', ⟨next, hnext, htrace⟩, hchain⟩
    · exact ⟨target, htarget, .inl hl⟩
    · exact ⟨next, hnext, .inr ⟨f', htrace, last, target, hchain, htarget, hl⟩⟩
  · rintro ⟨target, htarget, hl | ⟨f', htrace, last, target', hchain, hlast, hl⟩⟩
    · exact ⟨f, target, .refl, htarget, hl⟩
    · exact ⟨last, target', hchain.head ⟨target, htarget, htrace⟩, hlast, hl⟩

theorem follow_eq_ok_iff {f f' : Found} {path : String} :
    follow t f.1 path = .ok f' ↔
      t.trace [] .follow (pathIn (Location.path f.1.dropLast) path) =
        .ok (.entry f'.1 (.file f'.2)) := by
  obtain ⟨l, content⟩ := f'
  simp only [follow]
  split <;> simp_all

theorem isIn_of_trace {path : String} {f : Found} (hhere : t.get? here = some .directory)
    (h : t.trace here .follow path = .ok (.entry f.1 (.file f.2))) :
    IsIn f t ∧ PathLooksAt t here path f.1 := by
  simp only [trace] at h
  split at h
  · cases h
  · split at h
    · cases h
    · have hleads := leads_of_walk t none .follow _ _ _ h
      refine ⟨(hleads.get?_location (get?_pathStart hhere path)).1, hleads.looksAt ?_⟩
      simp [Spot.entry?]

theorem bind_congr_ok {α β : Type} {x : Except LoadError α} {f g : α → Except LoadError β}
    (h : ∀ a, x = .ok a → f a = g a) : x >>= f = x >>= g := by
  cases x with
  | error e => rfl
  | ok a => exact h a rfl

theorem eq_ok_of_mapError {α : Type} {x : Except FileError α} {g : FileError → LoadError} {a : α}
    (h : x.mapError g = .ok a) : x = .ok a := by
  cases x with
  | error e => cases h
  | ok b => exact congrArg Except.ok (Except.ok.inj h)

theorem chain_congr {others others' before : List Location} {f : Found}
    (ht : Unused t others before) (hu : Unused u others' before) (hft : IsIn f t) (hfu : IsIn f u)
    (h : ∀ l, ChainLooksAt t f l → u.get? l = t.get? l) :
    chain u others' before f.1 f.2 = chain t others before f.1 f.2 := by
  by_cases hmem : f.1 ∈ others
  · have hmem' : f.1 ∈ others' := (hu.mem_iff f hfu).mpr ((ht.mem_iff f hft).mp hmem)
    have hlength : (others.erase f.1).length < others.length := by
      have := List.length_pos_of_mem hmem
      rw [List.length_erase_of_mem hmem]
      omega
    rw [chain, chain, dif_pos hmem, dif_pos hmem']
    refine bind_congr_ok fun fs hfs => bind_congr_ok fun extended hextended => ?_
    cases extended with
    | none => rfl
    | some path =>
      have htarget : target? f = some (pathIn (Location.path f.1.dropLast) path) := by
        simp only [target?, eq_ok_of_mapError hfs, eq_ok_of_mapError hextended, Except.bind]
      have hwalk : ∀ l, PathLooksAt t [] _ l → u.get? l = t.get? l :=
        fun l hl => h l (chainLooksAt_iff.mpr ⟨_, htarget, .inl hl⟩)
      have hfollow : follow u f.1 path = follow t f.1 path := by
        simp only [follow, trace_congr hwalk]
      dsimp only
      rw [hfollow]
      refine bind_congr_ok fun f' hf' => ?_
      have htrace := follow_eq_ok_iff.mp hf'
      obtain ⟨hft', hlooks⟩ := isIn_of_trace t.get?_root htrace
      have hfu' : IsIn f' u := (hwalk _ hlooks).trans hft'
      have hbelow := chain_congr (ht.erase f.1) (hu.erase f.1) hft' hfu' fun l hl =>
        h l (chainLooksAt_iff.mpr ⟨_, htarget, .inr ⟨f', htrace, hl⟩⟩)
      rw [hbelow]
  · have hmem' : f.1 ∉ others' := fun hin =>
      hmem ((ht.mem_iff f hft).mpr ((hu.mem_iff f hfu).mp hin))
    rw [chain, chain, dif_neg hmem, dif_neg hmem']
termination_by others.length

/-! ## Places -/

def PlaceLooksAt (t : FileTree) (here : Location) (path : String) (l : Location) : Prop :=
  PathLooksAt t here path l ∨
    ∃ f : Found, t.resolve here .follow path = .ok (.entry f.1 (.file f.2)) ∧ ChainLooksAt t f l

theorem trace_of_resolve {path : String} {spot : Spot}
    (h : t.resolve here .follow path = .ok spot) : t.trace here .follow path = .ok spot := by
  simp only [resolve] at h
  split at h
  · cases h
  · exact h

/-- Where the way to a place ends at once, nothing more is looked at. -/
theorem eq_of_placeLooksAt (hhere : t.get? here = some .directory) {path n : String}
    {rest : List Step} {l : Location} (hsteps : Path.steps path = .name n :: rest)
    (hfree : t.get? (pathStart here path ++ [n]) = none) (h : PlaceLooksAt t here path l) :
    l = pathStart here path ++ [n] := by
  have hstop : ∀ e, t.get? (pathStart here path ++ [n]) = some e → ¬ e.Passable := by
    intro e he
    cases hfree.symm.trans he
  rcases h with hl | ⟨f, hf, -⟩
  · exact eq_of_pathLooksAt hsteps hstop hl
  · obtain ⟨hfile, hlooks⟩ := isIn_of_trace hhere (trace_of_resolve hf)
    rw [IsIn, eq_of_pathLooksAt hsteps hstop hlooks, hfree] at hfile
    cases hfile

/-- The places up to the first one with a file that can be read. -/
def searched (t : FileTree) (here : Location) : List String → List String
  | [] => []
  | path :: paths => path :: match layers? t here path with
    | some (.ok _) => []
    | _ => searched t here paths

section
variable (hhere : t.get? here = some .directory)
include hhere

theorem layers?_congr {path : String} (h : ∀ l, PlaceLooksAt t here path l → u.get? l = t.get? l) :
    layers? u here path = layers? t here path := by
  have hresolve := resolve_congr (fun l hl => h l (.inl hl)) .follow
  simp only [layers?, hresolve]
  split
  · next l content hfound =>
    obtain ⟨hft, hlooks⟩ := isIn_of_trace (f := (l, content)) hhere (trace_of_resolve hfound)
    have hfu : IsIn (l, content) u := (h l (.inl hlooks)).trans hft
    exact congrArg some (chain_congr (unused_regularFiles t) (unused_regularFiles u) hft hfu
      fun m hm => h m (.inr ⟨(l, content), hfound, hm⟩))
  · rfl

theorem firstOf_congr : ∀ (paths : List String) (errors : List LoadError),
    (∀ path ∈ searched t here paths, ∀ l, PlaceLooksAt t here path l → u.get? l = t.get? l) →
      firstOf u here paths errors = firstOf t here paths errors
  | [], errors, _ => rfl
  | path :: paths, errors, h => by
    rw [searched] at h
    rw [firstOf, firstOf, layers?_congr hhere (h path (by simp))]
    cases hread : layers? t here path with
    | none =>
      rw [hread] at h
      exact firstOf_congr paths errors fun path' hpath' => h path' (by simp [hpath'])
    | some read =>
      cases read with
      | ok ls => rfl
      | error e =>
        rw [hread] at h
        exact firstOf_congr paths _ fun path' hpath' => h path' (by simp [hpath'])

end

end SettingsFile

namespace Settings

def Consults (t : FileTree) (here : Location) (e : Environment) (l : Location) : Prop :=
  ∃ path ∈ SettingsFile.searched t here (SettingsFile.places e here).eraseDups,
    SettingsFile.PlaceLooksAt t here path l

/-- Settings are loaded alike from two trees that hold the same where loading looks. -/
theorem load_congr {t u : FileTree} {here : Location} {e : Environment}
    (hhere : t.get? here = some .directory)
    (h : ∀ l, Consults t here e l → u.get? l = t.get? l) (c : CommandLine) :
    load u here e c = load t here e c := by
  have hfirst := SettingsFile.firstOf_congr hhere _ []
    fun path hpath l hl => h l ⟨path, hpath, hl⟩
  simp only [load, lowerLayers, hfirst]

end Settings

end Overloads
