import Mathlib.Control.Monad.Basic
import Overloads.Proofs.Output.Landing
import Overloads.Run

/-!
# What a write leaves alone

A write changes one file, and it makes directories. Where it fails, it has made
directories at most, and none if the directory of the file was there
(`write_frame`). So whatever could be read before can be read afterwards, with
the new text if the path leads to the file that was written.
-/

namespace Overloads.Output

open FileTree

variable {t u : FileTree} {here : Location} {path text : String}

/-! ## Writes that fail -/

theorem write_error_grows {f : Fault} (h : write t here path text = (.error f, u)) :
    t.AddsDirectories u := by
  simp only [write] at h
  split at h
  · cases h; exact .refl t
  · next parent name hsplit =>
    have hgrows := ensureDirectory_grows t here parent
    split at h
    · next hensure => cases h; rwa [hensure] at hgrows
    · next directory made hensure =>
      rw [hensure] at hgrows
      split at h
      · cases h; exact hgrows
      · cases h

theorem write_of_split_none (h : Path.split? path = none) :
    write t here path text = (.error (.invalidOutputPath path), t) := by
  simp only [write, split, h]

theorem write_error_of_open {parent name : String} {directory : Location} {f : Fault}
    (hsplit : Path.split? path = some (parent, name))
    (hopen : t.openDirectory here parent = .ok directory)
    (h : write t here path text = (.error f, u)) : u = t := by
  simp only [write, split, hsplit, ensureDirectory_of_open hopen] at h
  split at h <;> cases h
  rfl

/-! ## Reading in the tree that is left -/

theorem compare_tree (here : Location) (path text : String) (events : List Event) (t : FileTree) :
    (Run.compare here path text events t).tree = t := by
  unfold Run.compare
  split <;> rfl

theorem read_of_locate {l : Location} {q : String} (hhere : t.get? here = some .directory)
    (hu : t.Carries u) (hplain : u.IsPlain) (hq : locate t here q = some l)
    (hl : u.get? l = some (.file (Text.bytes text))) : read u here q = .ok (some text) :=
  (read_eq_some_iff hplain (hu _ _ hhere trivial)).mpr
    ⟨l, locate_of_carries hhere hu hq hl, hl⟩

theorem read_of_addsDirectories {q x : String} (h : t.AddsDirectories u) (hplain : t.IsPlain)
    (hhere : t.get? here = some .directory) (hq : read t here q = .ok (some x)) :
    read u here q = .ok (some x) := by
  obtain ⟨l, hl, hfile⟩ := (read_eq_some_iff hplain hhere).mp hq
  exact read_of_locate hhere h.carries (h.isPlain hplain) hl (h.kept l _ hfile)

theorem read_of_setsFile {l : Location} {q x : String}
    (h : t.SetsFile u l (Text.bytes text)) (hplain : t.IsPlain)
    (hhere : t.get? here = some .directory) (hq : read t here q = .ok (some x)) :
    read u here q = .ok (some (if locate t here q = some l then text else x)) := by
  obtain ⟨m, hm, hfile⟩ := (read_eq_some_iff hplain hhere).mp hq
  by_cases hml : m = l
  · subst hml
    rw [if_pos hm]
    exact read_of_locate hhere h.carries (h.isPlain hplain) hm h.content_eq
  · rw [hm, if_neg fun e => hml (Option.some.inj e)]
    exact read_of_locate hhere h.carries (h.isPlain hplain) hm (h.kept m _ hml hfile)

/-- All that a write changes, and what it leaves readable. A comparison changes nothing. -/
theorem write_frame (t : FileTree) (here : Location) (path text : String) :
    (∀ events, (Run.compare here path text events t).tree = t) ∧
    (t.IsPlain → t.get? here = some .directory →
      (∀ written u, write t here path text = (.ok written, u) →
        ∃ l, t.SetsFile u l (Text.bytes text) ∧ locate u here path = some l ∧
          ∀ q x, read t here q = .ok (some x) →
            read u here q = .ok (some (if locate t here q = some l then text else x))) ∧
      ∀ f u, write t here path text = (.error f, u) →
        t.AddsDirectories u ∧
        (Path.split? path = none → u = t) ∧
        (∀ parent name directory, Path.split? path = some (parent, name) →
          t.openDirectory here parent = .ok directory → u = t) ∧
        ∀ q x, read t here q = .ok (some x) → read u here q = .ok (some x)) := by
  refine ⟨fun events => compare_tree here path text events t, fun hplain hhere => ⟨?_, ?_⟩⟩
  · intro written u hwrite
    obtain ⟨-, landing, hbeneath⟩ := exists_landing hwrite
    have hsets := landing.setsFile hhere hplain hbeneath
    exact ⟨_, hsets, landing.locate_eq hhere hplain hbeneath,
      fun q x hq => read_of_setsFile hsets hplain hhere hq⟩
  · intro f u hwrite
    have hgrows := write_error_grows hwrite
    refine ⟨hgrows, ?_, ?_, fun q x hq => read_of_addsDirectories hgrows hplain hhere hq⟩
    · intro hsplit
      rw [write_of_split_none hsplit] at hwrite
      cases hwrite
      rfl
    · intro parent name directory hsplit hopen
      exact write_error_of_open hsplit hopen hwrite

def linkedFile : FileTree :=
  ((FileTree.empty.put ["d"] .directory).put ["d", "f"] (.file (Text.bytes "old"))).put ["l"]
    (.link "d/f")

/-- What is written through a link is read at the file; a directory is not written over. -/
theorem write_frame_linked :
    linkedFile.IsPlain ∧ linkedFile.get? [] = some .directory ∧
      read linkedFile [] "d/f" = .ok (some "old") ∧
      (∃ u, write linkedFile [] "l" "new" = (.ok "l", u) ∧
        linkedFile.SetsFile u ["d", "f"] (Text.bytes "new") ∧
        read u [] "d/f" = .ok (some "new")) ∧
      write linkedFile [] "d" "new" = (.error (.io "d" .isDirectory), linkedFile) := by
  have hplain : linkedFile.IsPlain :=
    ((isPlain_empty.put (by simp) _).put (by simp) _).put (by simp) _
  have hold : read linkedFile [] "d/f" = .ok (some "old") := by decide +kernel
  have hlocate : locate linkedFile [] "d/f" = some ["d", "f"] := by decide +kernel
  refine ⟨hplain, rfl, hold, ?_, ?_⟩
  · have hresult : (write linkedFile [] "l" "new").1 = .ok "l" := by decide +kernel
    have hwritten : locate (write linkedFile [] "l" "new").2 [] "l" = some ["d", "f"] := by
      decide +kernel
    rcases hwrite : write linkedFile [] "l" "new" with ⟨result, u⟩
    rw [hwrite] at hresult hwritten
    cases hresult
    obtain ⟨l, hsets, hl, hread⟩ :=
      ((write_frame linkedFile [] "l" "new").2 hplain rfl).1 _ u hwrite
    cases hl.symm.trans hwritten
    refine ⟨u, rfl, hsets, ?_⟩
    rw [hread "d/f" "old" hold, if_pos hlocate]
  · have hresult : (write linkedFile [] "d" "new").1 = .error (.io "d" .isDirectory) := by
      decide +kernel
    rcases hwrite : write linkedFile [] "d" "new" with ⟨result, u⟩
    rw [hwrite] at hresult
    cases hresult
    obtain ⟨-, -, hsame, -⟩ := ((write_frame linkedFile [] "d" "new").2 hplain rfl).2 _ u hwrite
    rw [hsame "." "d" [] (by decide +kernel) (by decide +kernel)]

end Overloads.Output
