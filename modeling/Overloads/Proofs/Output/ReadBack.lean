import Mathlib.Control.Monad.Basic
import Overloads.Proofs.Output.Landing

/-!
# Reading back what was written

A comparison answers by what reading the file gives, and a file that was
written holds the text when it is read through the same path, whatever links
and missing directories are on the way (`read_back`).
-/

namespace Overloads.Output

open FileTree

/-! ## Comparing is reading -/

section
variable (t : FileTree) (here : Location) (path text : String)

theorem check_eq_of_read {found : Option String} (h : read t here path = .ok found) :
    check t here path text =
      if found = some text then .ok () else .error (.outOfDate path) := by
  cases found with
  | none => simp [check, compare, h]
  | some other => by_cases he : other = text <;> simp [check, compare, h, he]

theorem check_eq_of_read_error {f : Fault} (h : read t here path = .error f) :
    check t here path text = .error f := by
  simp only [check, compare, h]

theorem read_ne_outOfDate (p : String) : read t here path ≠ .error (.outOfDate p) := by
  intro h
  simp only [read, split] at h
  cases hsplit : Path.split? path with
  | none => simp [hsplit] at h
  | some q =>
    simp only [hsplit] at h
    split at h
    · split at h <;> cases h
    · split at h
      · cases h
      · split at h <;> cases h

theorem check_eq_ok_iff : check t here path text = .ok () ↔ read t here path = .ok (some text) := by
  cases h : read t here path with
  | error f => simp [check_eq_of_read_error t here path text h]
  | ok found =>
    rw [check_eq_of_read t here path text h]
    by_cases he : found = some text <;> simp [he]

theorem check_eq_outOfDate_iff (p : String) :
    check t here path text = .error (.outOfDate p) ↔
      p = path ∧ (read t here path = .ok none ∨
        ∃ other, other ≠ text ∧ read t here path = .ok (some other)) := by
  cases h : read t here path with
  | error f =>
    have hf : f ≠ .outOfDate p := fun e => read_ne_outOfDate t here path p (e ▸ h)
    simp [check_eq_of_read_error t here path text h, hf]
  | ok found =>
    rw [check_eq_of_read t here path text h]
    cases found with
    | none => simp [eq_comm]
    | some other => by_cases he : other = text <;> simp [he, eq_comm (a := path)]

end

/-! ## Reading after writing -/

/-- A text that was written is there: the path leads to it, and to no other text. A comparison
says at any time what reading says. -/
theorem read_back (t : FileTree) (here : Location) (path text : String) :
    (t.IsPlain → t.get? here = some .directory →
      ∀ written u, write t here path text = (.ok written, u) →
        written = path ∧ read u here path = .ok (some text) ∧ check u here path text = .ok () ∧
        ∀ other, other ≠ text → check u here path other = .error (.outOfDate path)) ∧
    (check t here path text = .ok () ↔ read t here path = .ok (some text)) ∧
    (∀ p, check t here path text = .error (.outOfDate p) ↔
      p = path ∧ (read t here path = .ok none ∨
        ∃ other, other ≠ text ∧ read t here path = .ok (some other))) ∧
    ∀ f, read t here path = .error f → check t here path text = .error f := by
  refine ⟨?_, check_eq_ok_iff t here path text, check_eq_outOfDate_iff t here path text,
    fun f => check_eq_of_read_error t here path text⟩
  intro hplain hhere written u hwrite
  obtain ⟨rfl, landing, hbeneath⟩ := exists_landing hwrite
  have hsets := landing.setsFile hhere hplain hbeneath
  have hread : read u here written = .ok (some text) := by
    refine (read_eq_some_iff (hsets.isPlain hplain) (hsets.carries _ _ hhere trivial)).mpr ?_
    exact ⟨_, landing.locate_eq hhere hplain hbeneath, hsets.content_eq⟩
  refine ⟨rfl, hread, (check_eq_ok_iff u here written text).mpr hread, fun other hother => ?_⟩
  rw [check_eq_outOfDate_iff]
  exact ⟨rfl, .inr ⟨text, hother.symm, hread⟩⟩

def loneLink : FileTree := FileTree.empty.put ["l"] (.link "f")

/-- Into a directory that has to be made first, back out of it, and through a link to nothing. -/
theorem read_back_roundabout :
    loneLink.IsPlain ∧ loneLink.get? [] = some .directory ∧
      ∃ u, write loneLink [] "new/../l" "text" = (.ok "new/../l", u) ∧
        read u [] "new/../l" = .ok (some "text") ∧
        check u [] "new/../l" "" = .error (.outOfDate "new/../l") := by
  have hplain : loneLink.IsPlain := isPlain_empty.put (by simp) _
  have hresult : (write loneLink [] "new/../l" "text").1 = .ok "new/../l" := by decide +kernel
  rcases hwrite : write loneLink [] "new/../l" "text" with ⟨result, u⟩
  rw [hwrite] at hresult
  cases hresult
  obtain ⟨-, hread, -, hother⟩ := (read_back loneLink [] "new/../l" "text").1 hplain rfl _ u hwrite
  exact ⟨hplain, rfl, u, rfl, hread, hother "" (by decide)⟩

end Overloads.Output
