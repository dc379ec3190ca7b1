import Overloads.Proofs.FileTree.Making
import Overloads.Proofs.Output.ReadBack

/-!
# Writes in either order

Two writes that succeed in either order leave the same directories and links, since each makes
only what its path goes through in the end. The same files stand there too, unless both paths end
at one file (`writes_commute`).
-/

namespace Overloads

namespace FileTree

variable {t u v : FileTree} {l m : Location} {content other : ByteArray}

theorem SetsFile.get?_file_iff (h : t.SetsFile u l content) :
    u.get? m = some (.file other) ↔
      if m = l then other = content else t.get? m = some (.file other) := by
  by_cases hml : m = l
  · rw [if_pos hml, hml, h.content_eq]
    simp [eq_comm]
  · rw [if_neg hml]
    constructor
    · intro hm
      rcases h.origin hm with ⟨hml', -⟩ | hold | hdirectory
      · exact absurd hml' hml
      · exact hold
      · cases hdirectory
    · exact h.kept m _ hml

theorem eq_of_carries (ht : t.IsPlain) (hu : u.IsPlain) (htu : t.Carries u) (hut : u.Carries t)
    (hfile : ∀ m content, t.get? m = some (.file content) ↔ u.get? m = some (.file content)) :
    t = u := by
  apply ext_get?
  intro m
  apply Option.ext
  intro e
  cases e with
  | directory => exact ⟨fun h => htu m _ h trivial, fun h => hut m _ h trivial⟩
  | link target => exact ⟨fun h => htu m _ h trivial, fun h => hut m _ h trivial⟩
  | file content => exact hfile m content
  | sink full => exact ⟨fun h => absurd h (ht m full), fun h => absurd h (hu m full)⟩

end FileTree

namespace Output

open FileTree

variable {t u w tp tq tpq tqp : FileTree} {here l m : Location} {path p q text x y : String}
  {written a b c d : String}

/-! ## What a write needs -/

theorem ensureDirectory_fits {parent : String} {directory : Location}
    (hhere : w.get? here = some .directory) (hopen : w.openDirectory here parent = .ok directory)
    (h : t.Fits w) : (ensureDirectory t here parent).2.Fits w := by
  have hmake := makeDirectories_fits hhere hopen h
  unfold ensureDirectory
  split
  · exact h
  · split
    · split
      · next hstop => rwa [hstop] at hmake
      · next hmade =>
        rw [hmade] at hmake
        split <;> exact hmake
    · exact h

/-- A write makes nothing that is missing where its path leads to a file already. -/
theorem write_fits (hhere : t.get? here = some .directory) (h : t.Fits w)
    (hl : locate w here path = some l) (hwrite : write t here path text = (.ok written, u)) :
    u.Fits w := by
  obtain ⟨-, landing, hbeneath⟩ := exists_landing hwrite
  obtain ⟨parent, name, directory, content, hsplit, hopen, -⟩ := locate_eq_some_iff.mp hl
  rw [landing.split_eq] at hsplit
  cases hsplit
  have hmade := ensureDirectory_fits (h.carries _ _ hhere trivial) hopen h
  rw [landing.ensure_eq] at hmade
  rcases landing.writeBeneath_cases hbeneath with ⟨hspot, rfl⟩ | ⟨-, rfl⟩
  · refine hmade.put_file ?_ _
    rw [landing.get?_location hhere]
    exact hspot
  · exact hmade

/-- A path leads to one file in all trees with the same directories and links. -/
theorem eq_of_locate (hhere : t.get? here = some .directory) (htu : t.Carries u)
    (hut : u.Carries t) (hl : locate t here path = some l) (hm : locate u here path = some m) :
    l = m := by
  obtain ⟨parent, name, directory, content, hsplit, hopen, hresolve⟩ := locate_eq_some_iff.mp hl
  obtain ⟨parent', name', directory', content', hsplit', hopen', hresolve'⟩ :=
    locate_eq_some_iff.mp hm
  rw [hsplit] at hsplit'
  cases hsplit'
  rw [htu.openDirectory hhere hopen] at hopen'
  cases hopen'
  obtain ⟨-, hleads⟩ := resolveBeneath_eq_ok_iff.mp hresolve
  obtain ⟨-, hleads'⟩ := resolveBeneath_eq_ok_iff.mp hresolve'
  have hlooks := htu.looksAt_append (hleads.looksAt (by simp [Spot.entry?])) []
  rw [List.append_nil] at hlooks
  rcases hleads'.passable (by simp) hlooks with ⟨e, he, hpass⟩ | hend
  · have hfile := (hleads.get?_location (get?_of_openDirectory hhere hopen)).1
    rw [hut _ _ he hpass] at hfile
    cases hfile
    exact absurd hpass id
  · exact hend

/-! ## Two writes -/

theorem exists_setsFile (hplain : t.IsPlain) (hhere : t.get? here = some .directory)
    (h : write t here path text = (.ok written, u)) :
    ∃ l, t.SetsFile u l (Text.bytes text) ∧ locate u here path = some l := by
  obtain ⟨-, landing, hbeneath⟩ := exists_landing h
  exact ⟨_, landing.setsFile hhere hplain hbeneath, landing.locate_eq hhere hplain hbeneath⟩

structure LeavesBoth (t w : FileTree) (here : Location) (p q x y : String) (l m : Location) :
    Prop where
  plain : w.IsPlain
  fits : t.Fits w
  first : locate w here p = some l
  last : locate w here q = some m
  files : ∀ k content, w.get? k = some (.file content) ↔
    if k = m then content = Text.bytes y
    else if k = l then content = Text.bytes x
    else t.get? k = some (.file content)

theorem LeavesBoth.read_eq (h : LeavesBoth t w here p q x y l m)
    (hhere : w.get? here = some .directory) (hlm : l ≠ m) :
    read w here p = .ok (some x) ∧ read w here q = .ok (some y) := by
  constructor
  · exact read_of_locate_eq hhere h.first ((h.files l _).mpr (by simp [hlm]))
  · exact read_of_locate_eq hhere h.last ((h.files m _).mpr (by simp))

/-- The last text stays where both paths end at one file. -/
theorem LeavesBoth.eq_iff (h : LeavesBoth t u here p q x y l m)
    (h' : LeavesBoth t w here q p y x m l) (huw : u.Carries w) (hwu : w.Carries u) :
    u = w ↔ l ≠ m ∨ x = y := by
  constructor
  · intro htree
    by_cases hlm : l = m
    · have hlast := (h.files m (Text.bytes y)).mpr (by simp)
      rw [htree, h'.files, if_pos hlm.symm] at hlast
      exact .inr (Text.bytes_inj.mp hlast).symm
    · exact .inl hlm
  · intro hor
    apply eq_of_carries h.plain h'.plain huw hwu
    intro k content
    rw [h.files, h'.files]
    by_cases hkm : k = m
    · by_cases hkl : k = l
      · have hxy := hor.resolve_left fun hlm => hlm (hkl.symm.trans hkm)
        rw [if_pos hkm, if_pos hkl, hxy]
      · rw [if_pos hkm, if_neg hkl, if_pos hkm]
    · by_cases hkl : k = l
      · rw [if_neg hkm, if_pos hkl, if_pos hkl]
      · rw [if_neg hkm, if_neg hkl, if_neg hkl, if_neg hkm]

section
variable (hplain : t.IsPlain) (hhere : t.get? here = some .directory)
include hplain hhere

theorem exists_leavesBoth (hp : write t here p x = (.ok a, tp))
    (hq : write tp here q y = (.ok b, tpq)) :
    ∃ l m, LeavesBoth t tpq here p q x y l m := by
  obtain ⟨l, hfirst, hl⟩ := exists_setsFile hplain hhere hp
  have hhere' := hfirst.carries _ _ hhere trivial
  obtain ⟨m, hlast, hm⟩ := exists_setsFile (hfirst.isPlain hplain) hhere' hq
  have hfiles : ∀ k content, tpq.get? k = some (.file content) ↔
      if k = m then content = Text.bytes y
      else if k = l then content = Text.bytes x
      else t.get? k = some (.file content) := by
    intro k content
    rw [hlast.get?_file_iff, hfirst.get?_file_iff]
  refine ⟨l, m, hlast.isPlain (hfirst.isPlain hplain), hfirst.fits.trans hlast.fits, ?_, hm, hfiles⟩
  by_cases hlm : l = m
  · exact locate_of_carries hhere' hlast.carries hl (hlm ▸ hlast.content_eq)
  · exact locate_of_carries hhere' hlast.carries hl (hlast.kept l _ hlm hfirst.content_eq)

/-- Writing the other way round makes nothing that is missing in the end. -/
theorem fits_of_orders (hq : write t here q y = (.ok c, tq))
    (hqp : write tq here p x = (.ok d, tqp))
    (h : LeavesBoth t tpq here p q x y l m) : tqp.Fits tpq := by
  have hfits := write_fits hhere h.fits h.last hq
  obtain ⟨k, hsets, -⟩ := exists_setsFile hplain hhere hq
  exact write_fits (hsets.carries _ _ hhere trivial) hfits h.first hqp

/-- Two writes that succeed in either order leave the same tree, unless they end at one file with
different texts. Where they end at different files, both texts are read afterwards. -/
theorem writes_commute (hp : write t here p x = (.ok a, tp))
    (hpq : write tp here q y = (.ok b, tpq)) (hq : write t here q y = (.ok c, tq))
    (hqp : write tq here p x = (.ok d, tqp)) :
    (tpq = tqp ↔ locate tpq here p ≠ locate tpq here q ∨ x = y) ∧
    (locate tpq here p ≠ locate tpq here q →
      (read tpq here p = .ok (some x) ∧ read tpq here q = .ok (some y)) ∧
      (read tqp here p = .ok (some x) ∧ read tqp here q = .ok (some y))) := by
  obtain ⟨l, m, h⟩ := exists_leavesBoth hplain hhere hp hpq
  obtain ⟨m', l', h'⟩ := exists_leavesBoth hplain hhere hq hqp
  -- each order has the directories and links of the other one, so both lead the paths the same way
  have hback := (fits_of_orders hplain hhere hq hqp h).carries
  have hforth := (fits_of_orders hplain hhere hp hpq h').carries
  have hhere' := h.fits.carries _ _ hhere trivial
  obtain rfl := eq_of_locate hhere' hforth hback h.first h'.last
  obtain rfl := eq_of_locate hhere' hforth hback h.last h'.first
  have hne : locate tpq here p ≠ locate tpq here q ↔ l ≠ m := by
    rw [h.first, h.last]
    simp
  have heq := h.eq_iff h' hforth hback
  rw [hne]
  refine ⟨heq, fun hlm => ?_⟩
  have hread := h.read_eq hhere' hlm
  exact ⟨hread, heq.mpr (.inl hlm) ▸ hread⟩

end

/-- One write makes the directory that the other only passes, on its way to a link to nothing. -/
theorem writes_commute_roundabout :
    loneLink.IsPlain ∧ loneLink.get? [] = some .directory ∧
      ∃ tp tq u, write loneLink [] "new/../l" "x" = (.ok "new/../l", tp) ∧
        write tp [] "new/g" "y" = (.ok "new/g", u) ∧
        write loneLink [] "new/g" "y" = (.ok "new/g", tq) ∧
        write tq [] "new/../l" "x" = (.ok "new/../l", u) ∧
        read u [] "new/../l" = .ok (some "x") ∧ read u [] "new/g" = .ok (some "y") := by
  have hplain : loneLink.IsPlain := isPlain_empty.put (by simp) _
  have hp : (write loneLink [] "new/../l" "x").1 = .ok "new/../l" := by decide +kernel
  have hpq : (write (write loneLink [] "new/../l" "x").2 [] "new/g" "y").1 = .ok "new/g" := by
    decide +kernel
  have hq : (write loneLink [] "new/g" "y").1 = .ok "new/g" := by decide +kernel
  have hqp : (write (write loneLink [] "new/g" "y").2 [] "new/../l" "x").1 = .ok "new/../l" := by
    decide +kernel
  have hne : locate (write (write loneLink [] "new/../l" "x").2 [] "new/g" "y").2 [] "new/../l" ≠
      locate (write (write loneLink [] "new/../l" "x").2 [] "new/g" "y").2 [] "new/g" := by
    decide +kernel
  rcases htp : write loneLink [] "new/../l" "x" with ⟨_, tp⟩
  rcases htq : write loneLink [] "new/g" "y" with ⟨_, tq⟩
  rw [htp] at hp hpq hne
  rw [htq] at hq hqp
  rcases htpq : write tp [] "new/g" "y" with ⟨_, tpq⟩
  rcases htqp : write tq [] "new/../l" "x" with ⟨_, tqp⟩
  rw [htpq] at hpq hne
  rw [htqp] at hqp
  cases hp
  cases hq
  cases hpq
  cases hqp
  obtain ⟨hsame, hread⟩ := writes_commute hplain rfl htp htpq htq htqp
  obtain ⟨⟨hx, hy⟩, -⟩ := hread hne
  rw [← hsame.mpr (.inl hne)] at htqp
  exact ⟨hplain, rfl, tp, tq, tpq, rfl, htpq, rfl, htqp, hx, hy⟩

end Output

end Overloads
