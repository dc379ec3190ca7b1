import Overloads.Proofs.Output.ReadBack
import Overloads.Proofs.Output.Repetition

/-!
# Writing over what was written

A second write to a path finds the directory made and the file there, and it comes to the same
spot as the first one. What it leaves is what it would have left without the first one
(`last_write_remains`).
-/

namespace Overloads

namespace FileTree

variable {t : FileTree} {l : Location} {e : Entry}

theorem hasRoom_put (h : t.HasRoom l) (he : e ≠ .directory) : (t.put l e).HasRoom l := by
  have hparent : l ≠ l.dropLast := by
    intro hl
    have hlength := congrArg List.length hl
    have hpos := List.length_pos_iff.mpr h.1
    rw [List.length_dropLast] at hlength
    omega
  refine ⟨h.1, ?_, ?_⟩
  · rw [get?_put h, if_neg hparent, h.2.1]
  · rw [get?_put h, if_pos rfl]
    simpa using he

theorem put_put (t : FileTree) (l : Location) (he : e ≠ .directory) (e' : Entry) :
    (t.put l e).put l e' = t.put l e' := by
  by_cases h : t.HasRoom l
  · apply ext_get?
    intro m
    rw [get?_put (hasRoom_put h he), get?_put h, get?_put h]
    by_cases hm : l = m
    · simp [hm]
    · simp [hm]
  · rw [put_of_no_room h]

end FileTree

namespace Output

open FileTree

variable {t u : FileTree} {here : Location} {path : String}

/-- The text decides neither where a write lands nor whether it succeeds, if no device is there. -/
theorem Landing.write_eq (landing : Landing t here path)
    (hspot : landing.spot.entry? = none ∨ ∃ old, landing.spot.entry? = some (.file old))
    (text : String) :
    write t here path text =
      (.ok path, landing.made.put landing.spot.location (.file (Text.bytes text))) := by
  have hbeneath : writeBeneath landing.made landing.directory landing.name text =
      .ok (landing.made.put landing.spot.location (.file (Text.bytes text))) := by
    unfold writeBeneath
    rw [landing.resolve_eq]
    cases hfound : landing.spot with
    | free l => rfl
    | entry l e =>
      rw [hfound] at hspot
      rcases hspot with hnone | ⟨old, hold⟩
      · cases hnone
      · cases hold
        rfl
  simp only [write, split, landing.split_eq, landing.ensure_eq, hbeneath]

/-- Of two writes to one path the first leaves no trace: the second one succeeds as it would have
without it, in the same tree, which holds its text. -/
theorem last_write_remains {first written : String} (hplain : t.IsPlain)
    (hhere : t.get? here = some .directory) (h : write t here path first = (.ok written, u))
    (text : String) :
    ∃ v, write u here path text = (.ok path, v) ∧ write t here path text = (.ok path, v) ∧
      read v here path = .ok (some text) ∧ (text = first → v = u) := by
  obtain ⟨-, landing, hbeneath⟩ := exists_landing h
  have hlocate := landing.locate_eq hhere hplain hbeneath
  rcases landing.writeBeneath_cases hbeneath with ⟨hspot, hu⟩ | ⟨⟨full, hsink, -⟩, -⟩
  · have hdirect := landing.write_eq hspot text
    have hover : write u here path text =
        (.ok path, landing.made.put landing.spot.location (.file (Text.bytes text))) := by
      rw [write_of_locate hlocate, hu, put_put landing.made _ (by simp)]
    have hsets := landing.setsFile_put hhere hspot (Text.bytes text)
    have hhere' := hsets.carries _ _ (landing.grows.kept _ _ hhere) trivial
    refine ⟨_, hover, hdirect, ?_, fun hsame => ?_⟩
    · exact read_of_locate_eq hhere' (landing.locate_of_setsFile hhere hsets) hsets.content_eq
    · rw [hu, hsame]
  · have hget := landing.get?_location hhere
    rw [hsink] at hget
    exact absurd hget (landing.grows.isPlain hplain _ full)

/-- A long text through a new directory and a link to nothing, then a short one. -/
theorem last_write_remains_roundabout :
    loneLink.IsPlain ∧ loneLink.get? [] = some .directory ∧
      ∃ u v, write loneLink [] "new/../l" "a longer text" = (.ok "new/../l", u) ∧
        write u [] "new/../l" "text" = (.ok "new/../l", v) ∧
        write loneLink [] "new/../l" "text" = (.ok "new/../l", v) := by
  have hplain : loneLink.IsPlain := isPlain_empty.put (by simp) _
  have hresult : (write loneLink [] "new/../l" "a longer text").1 = .ok "new/../l" := by
    decide +kernel
  rcases hwrite : write loneLink [] "new/../l" "a longer text" with ⟨result, u⟩
  rw [hwrite] at hresult
  cases hresult
  obtain ⟨v, hover, hdirect, -, -⟩ := last_write_remains hplain rfl hwrite "text"
  exact ⟨hplain, rfl, u, v, rfl, hover, hdirect⟩

end Output

end Overloads
