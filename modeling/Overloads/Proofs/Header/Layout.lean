import Overloads.Proofs.Family.Declaration
import Overloads.Proofs.Header.Enumeration

/-!
# The lines of a header

A header is written definition by definition, and its lines are those of its
definitions one behind the other. Read line by line it declares every
construction and every overload once (`declarations_generate`), and its counts
are the numbers of these declarations (`countP_declarations`).
-/

namespace Overloads.Header

def lines (l : Limits) (pragmas : Bool) : List String :=
  banner :: "" ::
    ((l.constructions.flatMap fun g => g.lines pragmas ++ [""]) ++
      l.overloads.map Forwarding.render)

def declarations (text : String) : List (String × String) :=
  (Text.cut '\n' text).filterMap declared?

/-! ## Writing -/

theorem render_blank (pragmas : Bool) (g : Guarded) :
    g.render pragmas ++ "\n" = Text.unlines (g.lines pragmas ++ [""]) := by
  rw [Text.unlines_append, Guarded.render]
  simp [Text.unlines]

theorem foldl_addGuarded (pragmas : Bool) : ∀ (gs : List Guarded) (h : Header),
    gs.foldl (addGuarded pragmas) h =
      ⟨h.text ++ Text.unlines (gs.flatMap fun g => g.lines pragmas ++ [""]),
        ⟨h.counts.guarded + gs.length, h.counts.forwarding⟩⟩
  | [], h => by simp [Text.unlines]
  | g :: gs, h => by
    rw [List.foldl_cons, foldl_addGuarded pragmas gs, List.flatMap_cons, Text.unlines_append]
    simp only [addGuarded, String.append_assoc, render_blank, List.length_cons, Header.mk.injEq,
      Counts.mk.injEq, true_and, and_true]
    omega

theorem foldl_addForwarding : ∀ (fs : List Forwarding) (h : Header),
    fs.foldl addForwarding h =
      ⟨h.text ++ Text.unlines (fs.map Forwarding.render),
        ⟨h.counts.guarded, h.counts.forwarding + fs.length⟩⟩
  | [], h => by simp [Text.unlines]
  | f :: fs, h => by
    have hline : Text.unlines ((f :: fs).map Forwarding.render) =
        f.render ++ "\n" ++ Text.unlines (fs.map Forwarding.render) := by
      simp [Text.unlines]
    rw [List.foldl_cons, foldl_addForwarding fs, hline]
    simp only [addForwarding, String.append_assoc, List.length_cons, Header.mk.injEq,
      Counts.mk.injEq, true_and]
    omega

theorem generate_eq (l : Limits) (pragmas : Bool) :
    generate l pragmas = ⟨Text.unlines (lines l pragmas), ⟨l.guarded, 2 ^ l.forwarding - 1⟩⟩ := by
  have hbare : bare.text = Text.unlines [banner, ""] := by decide
  have hlines : lines l pragmas = [banner, ""] ++
      (l.constructions.flatMap fun g => g.lines pragmas ++ [""]) ++
      l.overloads.map Forwarding.render := rfl
  rw [generate, foldl_addGuarded, foldl_addForwarding, hlines, Text.unlines_append,
    Text.unlines_append, ← hbare, l.length_overloads, Limits.constructions, List.length_map,
    List.length_range]
  simp only [bare, Nat.zero_add]

/-! ## Reading -/

theorem newline_not_mem_lines (l : Limits) (pragmas : Bool) :
    ∀ x ∈ lines l pragmas, '\n' ∉ x.toList := by
  intro x hx
  rw [lines, List.mem_cons, List.mem_cons, List.mem_append, List.mem_flatMap, List.mem_map] at hx
  rcases hx with rfl | rfl | ⟨g, -, hg⟩ | ⟨f, -, rfl⟩
  · decide
  · decide
  · rw [List.mem_append, List.mem_singleton] at hg
    rcases hg with hg | rfl
    · exact g.newline_not_mem_lines pragmas x hg
    · decide
  · exact f.newline_not_mem_render

theorem length_blocks (pragmas : Bool) (gs : List Guarded) :
    (gs.flatMap fun g => g.lines pragmas ++ [""]).length =
      gs.length * (if pragmas then 14 else 7) := by
  induction gs with
  | nil => simp
  | cons g gs ih =>
    rw [List.flatMap_cons, List.length_append, ih, List.length_append, Guarded.length_lines]
    cases pragmas <;> simp <;> omega

theorem length_lines (l : Limits) (pragmas : Bool) :
    (lines l pragmas).length =
      2 + l.guarded * (if pragmas then 14 else 7) + (2 ^ l.forwarding - 1) := by
  simp only [lines, List.length_cons, List.length_append, length_blocks, List.length_map,
    l.length_overloads, Limits.constructions, List.length_range]
  omega

theorem cut_text (l : Limits) (pragmas : Bool) :
    Text.cut '\n' (generate l pragmas).text = lines l pragmas ++ [""] := by
  rw [generate_eq, Text.cut_unlines (newline_not_mem_lines l pragmas)]

/-- A header with a construction in it has one text with pragmas and another one without. -/
theorem pragmas_eq_of_text {l : Limits} (h : 0 < l.guarded) {p q : Bool}
    (htext : (generate l p).text = (generate l q).text) : p = q := by
  have hcut := congrArg (Text.cut '\n') htext
  rw [cut_text, cut_text] at hcut
  have hlength := congrArg List.length (List.append_cancel_right hcut)
  rw [length_lines, length_lines] at hlength
  cases p <;> cases q <;> simp at hlength ⊢ <;> omega

theorem text_ne_empty (l : Limits) (pragmas : Bool) : (generate l pragmas).text ≠ "" := by
  intro h
  have hcut := cut_text l pragmas
  rw [h] at hcut
  have hlength := congrArg List.length hcut
  rw [List.length_append, length_lines] at hlength
  have hempty : (Text.cut '\n' "").length = 1 := by decide
  simp only [hempty, List.length_singleton] at hlength
  omega

theorem declarations_generate (l : Limits) (pragmas : Bool) :
    declarations (generate l pragmas).text =
      (l.constructions.map fun g => (Guarded.function, Text.listing g.parameters)) ++
        l.overloads.map fun f => (Forwarding.function, Text.listing f.parameters) := by
  have hblank : declared? "" = none := by decide
  have hbanner : declared? banner = none := by decide
  have hguarded : ∀ g : Guarded, (g.lines pragmas ++ [""]).filterMap declared? =
      [(Guarded.function, Text.listing g.parameters)] := by
    intro g
    rw [List.filterMap_append, g.filterMap_declared?_lines, List.filterMap_cons_none hblank]
    rfl
  have hforwarding : l.overloads.filterMap (declared? ∘ Forwarding.render) =
      l.overloads.map fun f => (Forwarding.function, Text.listing f.parameters) := by
    have hrender : declared? ∘ Forwarding.render =
        fun f => some (Forwarding.function, Text.listing f.parameters) := by
      funext f
      rw [Function.comp_apply, f.declared?_render]
    rw [hrender, List.filterMap_eq_map']
  rw [declarations, cut_text, List.filterMap_append, List.filterMap_cons_none hblank, lines,
    List.filterMap_cons_none hbanner, List.filterMap_cons_none hblank, List.filterMap_append,
    List.filterMap_flatMap, List.filterMap_map, hforwarding]
  simp only [hguarded, ← List.map_eq_flatMap, List.filterMap_nil, List.append_nil]

theorem nodup_declarations (l : Limits) (pragmas : Bool) :
    (declarations (generate l pragmas).text).Nodup := by
  rw [declarations_generate, List.nodup_append]
  refine ⟨?_, ?_, ?_⟩
  · rw [Limits.constructions, List.map_map]
    refine List.pairwise_map.mpr (List.nodup_range.imp fun {a b} hne h => hne ?_)
    exact Guarded.arity_eq_of_listing (Prod.mk.inj h).2
  · refine List.pairwise_map.mpr (l.nodup_overloads.imp fun {f g} hne h => hne ?_)
    exact Forwarding.eq_of_listing_parameters (Prod.mk.inj h).2
  · intro d hd e he h
    obtain ⟨g, -, rfl⟩ := List.mem_map.mp hd
    obtain ⟨f, -, rfl⟩ := List.mem_map.mp he
    exact absurd (Prod.mk.inj h).1 (by decide)

theorem countP_declarations (l : Limits) (pragmas : Bool) :
    (declarations (generate l pragmas).text).countP (fun d => d.1 = Guarded.function) = l.guarded ∧
    (declarations (generate l pragmas).text).countP (fun d => d.1 = Forwarding.function) =
      2 ^ l.forwarding - 1 := by
  have hne : Forwarding.function ≠ Guarded.function := by decide
  rw [declarations_generate, List.countP_append, List.countP_append, List.countP_map,
    List.countP_map, List.countP_map, List.countP_map, ← l.length_overloads]
  constructor
  · simp [Function.comp_def, hne, Limits.constructions]
  · simp [Function.comp_def, hne.symm]

theorem cut_render (pragmas : Bool) (g : Guarded) :
    Text.cut '\n' (g.render pragmas) = g.lines pragmas ++ [""] :=
  Text.cut_unlines (g.newline_not_mem_lines pragmas)

theorem cut_generate (l : Limits) (pragmas : Bool) :
    Text.cut '\n' (generate l pragmas).text =
      banner :: "" ::
        ((List.range l.guarded).flatMap fun k => Text.cut '\n' (Guarded.render pragmas ⟨k⟩)) ++
        l.overloads.map Forwarding.render ++ [""] := by
  rw [cut_text, lines, Limits.constructions, List.flatMap_map]
  simp only [cut_render, List.cons_append]

theorem target_declared (l : Limits) (pragmas : Bool) (h : l.forwarding ≤ l.guarded)
    {f : Forwarding} (hf : f ∈ l.overloads) :
    (Guarded.function, Text.listing f.target.parameters) ∈
        (declarations (generate l pragmas).text).take l.guarded ∧
      (Forwarding.function, Text.listing f.parameters) ∈
        (declarations (generate l pragmas).text).drop l.guarded := by
  have hlength : (l.constructions.map fun g =>
      (Guarded.function, Text.listing g.parameters)).length = l.guarded := by
    simp [Limits.constructions]
  have hlt := Limits.arity_of_mem_overloads hf
  have htarget : f.target ∈ l.constructions :=
    Limits.mem_constructions.mpr (Nat.lt_of_lt_of_le hlt h)
  rw [declarations_generate, List.take_left' hlength, List.drop_left' hlength]
  exact ⟨List.mem_map.mpr ⟨f.target, htarget, rfl⟩, List.mem_map.mpr ⟨f, hf, rfl⟩⟩

/-- The text of a header line by line, with what it declares and what its counts say. -/
theorem generate_layout (l : Limits) (pragmas : Bool) :
    let text := (generate l pragmas).text
    Text.cut '\n' text =
      banner :: "" ::
        ((List.range l.guarded).flatMap fun k => Text.cut '\n' (Guarded.render pragmas ⟨k⟩)) ++
        l.overloads.map Forwarding.render ++ [""] ∧
    (∀ k : Nat, ∃ group : List String, group.length = (if pragmas then 13 else 6) ∧
      Text.unlines group = Guarded.render pragmas ⟨k⟩ ∧
      Text.cut '\n' (Guarded.render pragmas ⟨k⟩) = group ++ [""]) ∧
    l.overloads.map Forwarding.key = pairs l.forwarding ∧
    l.overloads.length = 2 ^ l.forwarding - 1 ∧
    (generate l pragmas).counts = ⟨l.guarded, 2 ^ l.forwarding - 1⟩ ∧
    declarations text =
      ((List.range l.guarded).map fun k =>
        (Guarded.function, Text.listing (Guarded.mk k).parameters)) ++
        l.overloads.map (fun f => (Forwarding.function, Text.listing f.parameters)) ∧
    (declarations text).countP (fun d => d.1 = Guarded.function) = l.guarded ∧
    (declarations text).countP (fun d => d.1 = Forwarding.function) = 2 ^ l.forwarding - 1 ∧
    (declarations text).Nodup ∧
    (l.forwarding ≤ l.guarded → ∀ f ∈ l.overloads,
      (Guarded.function, Text.listing f.target.parameters) ∈
          (declarations text).take l.guarded ∧
        (Forwarding.function, Text.listing f.parameters) ∈
          (declarations text).drop l.guarded) := by
  obtain ⟨hguarded, hforwarding⟩ := countP_declarations l pragmas
  have hdeclarations := declarations_generate l pragmas
  rw [Limits.constructions, List.map_map] at hdeclarations
  refine ⟨cut_generate l pragmas, ?_, l.map_key_overloads, l.length_overloads, ?_, hdeclarations,
    hguarded, hforwarding, nodup_declarations l pragmas, fun h f hf => target_declared l pragmas h hf⟩
  · intro k
    exact ⟨(Guarded.mk k).lines pragmas, Guarded.length_lines pragmas ⟨k⟩, rfl, cut_render pragmas ⟨k⟩⟩
  · rw [generate_eq]

/-- The standard header has 531 definitions, and every call in it is to one of the first 20. -/
theorem standard_layout : Limits.standard.forwarding ≤ Limits.standard.guarded ∧
    (generate .standard true).counts = ⟨20, 511⟩ ∧
    ∀ f ∈ Limits.standard.overloads,
      (Guarded.function, Text.listing f.target.parameters) ∈
        (declarations (generate .standard true).text).take 20 := by
  obtain ⟨-, -, -, -, hcounts, -, -, -, -, htargets⟩ := generate_layout .standard true
  exact ⟨by decide, hcounts, fun f hf => (htargets (by decide) f hf).1⟩

end Overloads.Header
