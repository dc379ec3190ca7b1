import Overloads.Proofs.Family.Pragmas
import Overloads.Proofs.Header.Layout

/-!
# Pragmas in a header

Each definition with pragmas is balanced, so a header is balanced at the beginning
of each of its definitions (`stateAfter_take`, `stateAfter_of_overload`). Without
its directives it is the header without pragmas (`withoutDirectives_text`), and so
it is where `WIN32` is not defined (`preprocess_text`).
-/

namespace Overloads

open Preprocessor

theorem take_flatMap {α β : Type} {f : α → List β} {n : Nat} (hf : ∀ x, (f x).length = n) :
    ∀ (xs : List α) (k : Nat), (xs.flatMap f).take (n * k) = (xs.take k).flatMap f
  | [], k => by simp
  | x :: xs, 0 => by simp
  | x :: xs, k + 1 => by
    have hlen : n * (k + 1) = (f x).length + n * k := by rw [hf, Nat.mul_succ, Nat.add_comm]
    rw [List.flatMap_cons, hlen, List.take_length_add_append, take_flatMap hf xs k]
    rfl

theorem drop_flatMap {α β : Type} {f : α → List β} {n : Nat} (hf : ∀ x, (f x).length = n) :
    ∀ (xs : List α) (k : Nat), (xs.flatMap f).drop (n * k) = (xs.drop k).flatMap f
  | [], k => by simp
  | x :: xs, 0 => by simp
  | x :: xs, k + 1 => by
    have hlen : n * (k + 1) = (f x).length + n * k := by rw [hf, Nat.mul_succ, Nat.add_comm]
    rw [List.flatMap_cons, hlen, List.drop_length_add_append, drop_flatMap hf xs k]
    rfl

namespace Header

def blocks (gs : List Guarded) : List String := gs.flatMap fun g => g.lines true ++ [""]

def processed (defined : String → Bool) (l : Limits) : List String :=
  [banner, ""] ++ ((l.constructions.flatMap fun g => g.processed defined ++ [""]) ++
    l.overloads.map Forwarding.render)

theorem length_block (g : Guarded) : (g.lines true ++ [""]).length = 14 := by
  rw [List.length_append, g.length_lines]
  rfl

theorem le_length_blocks {l : Limits} {k : Nat} (hk : k ≤ l.guarded) :
    14 * k ≤ (blocks l.constructions).length := by
  rw [blocks, length_blocks, Limits.constructions, List.length_map, List.length_range, if_pos rfl]
  omega

theorem lines_eq_blocks (l : Limits) :
    lines l true = [banner, ""] ++ (blocks l.constructions ++ l.overloads.map Forwarding.render) := rfl

theorem linesOf_text (l : Limits) (pragmas : Bool) :
    Text.linesOf (generate l pragmas).text = lines l pragmas := by
  rw [generate_eq]
  exact Text.linesOf_unlines (newline_not_mem_lines l pragmas)

section
variable (defined : String → Bool)

theorem process_heading : process defined start [banner, ""] = some ([banner, ""], start) :=
  process_of_no_directives rfl (by decide)

theorem process_blocks (gs : List Guarded) :
    process defined start (blocks gs) =
      some (gs.flatMap fun g => g.processed defined ++ [""], start) := by
  apply process_flatMap
  intro g _
  have hblank : process defined start [""] = some ([""], start) :=
    process_of_no_directives rfl (by decide)
  exact process_append (g.process_lines defined) hblank

theorem process_overloads {fs : List String} (h : ∀ x ∈ fs, ∃ f : Forwarding, f.render = x) :
    process defined start fs = some (fs, start) := by
  apply process_of_no_directives rfl
  intro x hx
  obtain ⟨f, rfl⟩ := h x hx
  exact f.directive?_render

theorem process_lines (l : Limits) :
    process defined start (lines l true) = some (processed defined l, start) := by
  have hoverloads : process defined start (l.overloads.map Forwarding.render) =
      some (l.overloads.map Forwarding.render, start) :=
    process_overloads defined fun x hx => by
      obtain ⟨f, -, hf⟩ := List.mem_map.mp hx
      exact ⟨f, hf⟩
  rw [lines_eq_blocks]
  exact process_append (process_heading defined)
    (process_append (process_blocks defined l.constructions) hoverloads)

theorem stateAfter_take (l : Limits) (k : Nat) (hk : k ≤ l.guarded) :
    stateAfter defined ((lines l true).take (2 + 14 * k)) = some start := by
  have hlength := le_length_blocks hk
  have htake : (lines l true).take (2 + 14 * k) = [banner, ""] ++ blocks (l.constructions.take k) := by
    have htwo : 2 + 14 * k = [banner, ""].length + 14 * k := rfl
    rw [lines_eq_blocks, htwo, List.take_length_add_append, List.take_append_of_le_length hlength]
    unfold blocks
    rw [take_flatMap length_block]
  unfold stateAfter
  rw [htake, process_append (process_heading defined) (process_blocks defined _)]
  rfl

end

theorem take_drop_lines (l : Limits) {k : Nat} (hk : k < l.guarded) :
    ((lines l true).drop (2 + 14 * k)).take 13 = (Guarded.mk k).lines true := by
  have hlength := le_length_blocks (Nat.le_of_lt hk)
  have htwo : 2 + 14 * k = [banner, ""].length + 14 * k := rfl
  have hconstructions : l.constructions.drop k = Guarded.mk k :: l.constructions.drop (k + 1) := by
    have hlt : k < l.constructions.length := by simp [Limits.constructions, hk]
    rw [List.drop_eq_getElem_cons hlt]
    simp [Limits.constructions]
  rw [lines_eq_blocks, htwo, List.drop_length_add_append, List.drop_append_of_le_length hlength]
  unfold blocks
  rw [drop_flatMap length_block, hconstructions, List.flatMap_cons, List.append_assoc,
    List.append_assoc]
  exact List.take_left' ((Guarded.mk k).length_lines true)

/-! ## Lines of overloads -/

theorem render_not_mem_blocks (f : Forwarding) (gs : List Guarded) :
    f.render ∉ [banner, ""] ++ blocks gs := by
  have hdeclared := f.declared?_render
  intro hf
  rw [List.mem_append, blocks, List.mem_flatMap] at hf
  rcases hf with hf | ⟨g, -, hf⟩
  · have hnone : ∀ x ∈ [banner, ""], declared? x = none := by decide
    rw [hnone _ hf] at hdeclared
    cases hdeclared
  · have hmem : (Forwarding.function, Text.listing f.parameters) ∈
        (g.lines true ++ [""]).filterMap declared? :=
      List.mem_filterMap.mpr ⟨f.render, hf, hdeclared⟩
    have hblank : [""].filterMap declared? = [] := by decide
    rw [List.filterMap_append, g.filterMap_declared?_lines, hblank, List.append_nil,
      List.mem_singleton] at hmem
    exact absurd (Prod.mk.inj hmem).1 (by decide)

/-- Wherever the line of an overload stands, no conditional is open and no state saved. -/
theorem stateAfter_of_overload (defined : String → Bool) {l : Limits} {before after : List String}
    {f : Forwarding} (h : lines l true = before ++ f.render :: after) :
    stateAfter defined before = some start := by
  rw [lines_eq_blocks, ← List.append_assoc] at h
  rcases List.append_eq_append_iff.mp h with ⟨middle, hbefore, hmiddle⟩ | ⟨middle, hblocks, hmiddle⟩
  · have hoverloads : process defined start middle = some (middle, start) :=
      process_overloads defined fun x hx => by
        have hmem : x ∈ l.overloads.map Forwarding.render := by simp [hmiddle, hx]
        obtain ⟨f, -, hf⟩ := List.mem_map.mp hmem
        exact ⟨f, hf⟩
    unfold stateAfter
    rw [hbefore, process_append (process_append (process_heading defined)
      (process_blocks defined l.constructions)) hoverloads]
    rfl
  · -- a line in front of the overloads would have to be that of one
    cases middle with
    | nil =>
      rw [List.append_nil] at hblocks
      unfold stateAfter
      rw [← hblocks, process_append (process_heading defined)
        (process_blocks defined l.constructions)]
      rfl
    | cons x middle =>
      obtain ⟨rfl, -⟩ := List.cons.inj hmiddle
      have hmem : f.render ∈ [banner, ""] ++ blocks l.constructions := by simp [hblocks]
      exact absurd hmem (render_not_mem_blocks f l.constructions)

/-! ## With and without pragmas -/

theorem withoutDirectives_text (l : Limits) :
    Text.withoutDirectives (generate l true).text = (generate l false).text := by
  have hblock : ∀ g : Guarded, (g.lines true ++ [""]).filter (fun x => !Text.isDirective x) =
      g.lines false ++ [""] := by
    intro g
    rw [List.filter_append, g.filter_lines]
    rfl
  have hoverloads : (l.overloads.map Forwarding.render).filter (fun x => !Text.isDirective x) =
      l.overloads.map Forwarding.render := by
    apply List.filter_eq_self.mpr
    intro x hx
    obtain ⟨f, -, rfl⟩ := List.mem_map.mp hx
    rw [isDirective_of_no_directive f.directive?_render]
    rfl
  have hheading : [banner, ""].filter (fun x => !Text.isDirective x) = [banner, ""] := by decide
  unfold Text.withoutDirectives
  rw [linesOf_text, lines_eq_blocks, List.filter_append, List.filter_append, blocks,
    List.filter_flatMap, hheading, hoverloads]
  simp only [hblock]
  rw [generate_eq]
  rfl

theorem preprocess_text {defined : String → Bool} (h : defined "WIN32" = false) (l : Limits) :
    preprocess defined (generate l true).text = some (generate l false).text := by
  have hprocessed : processed defined l = lines l false := by
    unfold processed Guarded.processed
    simp only [h, Bool.false_eq_true, if_false]
    rfl
  unfold preprocess
  rw [linesOf_text, process_lines, hprocessed, generate_eq]
  rfl

/-- Text with pragmas is the text without them and lines around each construction, which stay
balanced at every definition of a header. -/
theorem pragmas_change_nothing_else :
    (∀ g : Guarded,
      Text.withoutDirectives (g.render true) = g.render false ∧
      (∀ defined : String → Bool, defined "WIN32" = false →
        preprocess defined (g.render true) = some (g.render false)) ∧
      ∀ defined : String → Bool, defined "WIN32" = true → ∃ front construction back,
        preprocess defined (g.render true) = some (Text.unlines (front ++
          ["#pragma warning(push)", "#pragma warning(disable: 4345)", construction,
            "#pragma warning(pop)"] ++ back)) ∧
        g.render false = Text.unlines (front ++ [construction] ++ back) ∧
        (∀ x ∈ front ++ [construction] ++ back, directive? x = none ∧ '\n' ∉ x.toList) ∧
        front.getLast? = some "   allocation_scope_magic<T> m; " ∧
        construction = "   new(m.allocate()) T(" ++ Text.listing g.arguments ++ "); " ∧
        back.head? = some "   return m.finalize();") ∧
    ∀ l : Limits,
      Text.withoutDirectives (generate l true).text = (generate l false).text ∧
      (∀ defined : String → Bool, defined "WIN32" = false →
        preprocess defined (generate l true).text = some (generate l false).text) ∧
      ∀ defined : String → Bool,
        let lines := Text.linesOf (generate l true).text
        stateAfter defined lines = some start ∧
        (∀ k < l.guarded, (lines.drop (2 + 14 * k)).take 13 =
          Text.linesOf (Guarded.render true ⟨k⟩)) ∧
        (∀ k ≤ l.guarded, stateAfter defined (lines.take (2 + 14 * k)) = some start) ∧
        ∀ before f after, f ∈ l.overloads → lines = before ++ f.render :: after →
          stateAfter defined before = some start := by
  constructor
  · intro g
    refine ⟨?_, ?_, ?_⟩
    · unfold Text.withoutDirectives
      rw [g.linesOf_render, g.filter_lines]
      rfl
    · intro defined h
      rw [g.preprocess_render, Guarded.processed, if_neg (by simp [h])]
      rfl
    · intro defined h
      refine ⟨g.front, g.construction, Guarded.back, ?_, rfl, ?_, rfl, rfl, rfl⟩
      · rw [g.preprocess_render, Guarded.processed, if_pos h]
        simp
      · intro x hx
        rw [List.append_assoc, ← g.lines_without_pragmas] at hx
        exact ⟨g.directive?_lines x hx, g.newline_not_mem_lines false x hx⟩
  · intro l
    refine ⟨withoutDirectives_text l, fun defined h => preprocess_text h l, ?_⟩
    intro defined
    simp only [linesOf_text, Guarded.linesOf_render]
    refine ⟨?_, fun k hk => take_drop_lines l hk, stateAfter_take defined l, ?_⟩
    · unfold stateAfter
      rw [process_lines]
      rfl
    · intro before f after _ h
      exact stateAfter_of_overload defined h

/-- With no name defined the standard header is the one without pragmas, and with `WIN32` defined
every state that its constructions save is restored. -/
theorem standard_header_balanced : (fun _ : String => false) "WIN32" = false ∧
    preprocess (fun _ => false) (generate .standard true).text =
      some (generate .standard false).text ∧
    20 ≤ Limits.standard.guarded ∧
    stateAfter (· == "WIN32") ((Text.linesOf (generate .standard true).text).take (2 + 14 * 20)) =
      some start := by
  obtain ⟨-, hheader⟩ := pragmas_change_nothing_else
  obtain ⟨-, hundefined, hbalanced⟩ := hheader .standard
  obtain ⟨-, -, htake, -⟩ := hbalanced (· == "WIN32")
  exact ⟨rfl, hundefined _ rfl, by decide, htake 20 (by decide)⟩

end Header

end Overloads
