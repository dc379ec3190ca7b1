import Overloads.Proofs.Family.Declaration
import Overloads.Proofs.Text.Preprocessing

/-!
# Pragmas around a construction

Pragmas add lines in front of the construction in a definition and behind it, and
these are all directives. Whichever names are defined, a definition is balanced
(`process_lines`): it leaves no conditional open and no warning state saved.
-/

namespace Overloads

open Preprocessor

namespace Guarded

def front (g : Guarded) : List String :=
  ["template <" ++ Text.listing g.templateParameters ++ ">",
    "T * " ++ function ++ "(" ++ Text.listing g.parameters ++ ") \x7b",
    "   " ++ guardType ++ "<T> m; "]

def construction (g : Guarded) : String := "   new(m.allocate()) T(" ++ Text.listing g.arguments ++ "); "

def back : List String := ["   return m.finalize();", "\x7d"]

theorem lines_with_pragmas (g : Guarded) :
    g.lines true = g.front ++ (silence ++ ([g.construction] ++ (restore ++ back))) := rfl

theorem lines_without_pragmas (g : Guarded) : g.lines false = g.front ++ ([g.construction] ++ back) := rfl

theorem directive?_lines (g : Guarded) : ∀ x ∈ g.lines false, directive? x = none := by
  have hback : ∀ x ∈ back, directive? x = none := by decide
  intro x hx
  rw [lines_without_pragmas] at hx
  simp only [front, List.mem_append, List.mem_cons, List.not_mem_nil, or_false] at hx
  rcases hx with (rfl | rfl | rfl) | rfl | hx
  · rw [String.append_assoc]
    exact directive?_append (by decide) _
  · rw [String.append_assoc, String.append_assoc, String.append_assoc]
    exact directive?_append (by decide) _
  · decide
  · unfold construction
    rw [String.append_assoc]
    exact directive?_append (by decide) _
  · exact hback x hx

def processed (defined : String → Bool) (g : Guarded) : List String :=
  if defined "WIN32" then
    g.front ++ (["#pragma warning(push)", "#pragma warning(disable: 4345)"] ++
      ([g.construction] ++ (["#pragma warning(pop)"] ++ back)))
  else g.lines false

section
variable (defined : String → Bool)

theorem process_silence :
    process defined start silence = some (if defined "WIN32" then
      (["#pragma warning(push)", "#pragma warning(disable: 4345)"], ⟨[], 1⟩) else ([], start)) := by
  have hifdef : directive? "#ifdef WIN32" = some (.opens "WIN32") := by decide
  have hpush : directive? "#pragma warning(push)" = some .saves := by decide
  have hdisable : directive? "#pragma warning(disable: 4345)" = some .pragma := by decide
  have hendif : directive? "#endif" = some .closes := by decide
  have hlines : silence = ["#ifdef WIN32", "#pragma warning(push)",
      "#pragma warning(disable: 4345)", "#endif"] := by decide
  rw [hlines]
  by_cases h : defined "WIN32" = true
  · simp [process, step, start, hifdef, hpush, hdisable, hendif, h]
  · simp [process, step, start, hifdef, hpush, hdisable, hendif, h]

theorem process_restore (saved : Nat) (h : defined "WIN32" = true → 0 < saved) :
    process defined ⟨[], saved⟩ restore = some (if defined "WIN32" then
      (["#pragma warning(pop)"], ⟨[], saved - 1⟩) else ([], ⟨[], saved⟩)) := by
  have hifdef : directive? "#ifdef WIN32" = some (.opens "WIN32") := by decide
  have hpop : directive? "#pragma warning(pop)" = some .restores := by decide
  have hendif : directive? "#endif" = some .closes := by decide
  by_cases hd : defined "WIN32" = true
  · have hsaved : saved ≠ 0 := Nat.ne_of_gt (h hd)
    simp [restore, process, step, hifdef, hpop, hendif, hd, hsaved]
  · simp [restore, process, step, hifdef, hpop, hendif, hd]

theorem process_lines (g : Guarded) :
    process defined start (g.lines true) = some (g.processed defined, start) := by
  have hlines := g.directive?_lines
  rw [lines_without_pragmas] at hlines
  have hfront : process defined start g.front = some (g.front, start) :=
    process_of_no_directives rfl fun x hx => hlines x (by simp [hx])
  have hrest : ∀ saved, process defined ⟨[], saved⟩ [g.construction] =
      some ([g.construction], ⟨[], saved⟩) := fun saved =>
    process_of_no_directives rfl fun x hx => hlines x (by simp_all)
  have hback : process defined start back = some (back, start) :=
    process_of_no_directives rfl fun x hx => hlines x (by simp [hx])
  have hsilence := process_silence defined
  rw [lines_with_pragmas, processed]
  by_cases h : defined "WIN32" = true
  · have hrestore := process_restore defined 1 fun _ => Nat.one_pos
    rw [if_pos h] at hsilence hrestore ⊢
    have hall := process_append hfront (process_append hsilence (process_append (hrest 1)
      (process_append hrestore hback)))
    exact hall
  · have hrestore := process_restore defined 0 fun hd => absurd hd h
    rw [if_neg h] at hsilence hrestore
    rw [if_neg h, lines_without_pragmas]
    have hall := process_append hfront (process_append hsilence (process_append (hrest 0)
      (process_append hrestore hback)))
    exact hall

end

theorem filter_lines (g : Guarded) :
    (g.lines true).filter (fun x => !Text.isDirective x) = g.lines false := by
  have hkept : (g.lines false).filter (fun x => !Text.isDirective x) = g.lines false :=
    List.filter_eq_self.mpr fun x hx => by
      rw [isDirective_of_no_directive (g.directive?_lines x hx)]
      rfl
  have hsilence : silence.filter (fun x => !Text.isDirective x) = [] := by decide
  have hrestore : restore.filter (fun x => !Text.isDirective x) = [] := by decide
  rw [← hkept, lines_with_pragmas, lines_without_pragmas]
  simp only [List.filter_append, hsilence, hrestore, List.nil_append]

theorem linesOf_render (pragmas : Bool) (g : Guarded) :
    Text.linesOf (g.render pragmas) = g.lines pragmas :=
  Text.linesOf_unlines (g.newline_not_mem_lines pragmas)

theorem preprocess_render (defined : String → Bool) (g : Guarded) :
    preprocess defined (g.render true) = some (Text.unlines (g.processed defined)) := by
  unfold preprocess
  rw [linesOf_render, process_lines]
  rfl

end Guarded

theorem Forwarding.directive?_render (f : Forwarding) : directive? f.render = none := by
  unfold render
  simp only [String.append_assoc]
  exact directive?_append (by decide) _

end Overloads
