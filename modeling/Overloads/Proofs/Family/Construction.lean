import Overloads.Proofs.Family.Pragmas

/-!
# Reading a construction back

The lines of a guarded construction are told apart by how they begin, and one of them constructs.
The listings in the first two lines and in that one are those of the construction
(`render_reads_back`), so its arity and its pragmas can be told from its text.
-/

namespace Overloads

theorem getElem?_middle {α : Type} {xs zs : List α} {y z : α} (hx : z ∉ xs) (hz : z ∉ zs)
    (i : Nat) : (xs ++ y :: zs)[i]? = some z ↔ i = xs.length ∧ z = y := by
  by_cases hlt : i < xs.length
  · rw [List.getElem?_append_left hlt]
    constructor
    · intro h
      exact absurd (List.mem_of_getElem? h) hx
    · rintro ⟨rfl, -⟩
      exact absurd hlt (Nat.lt_irrefl _)
  · rw [List.getElem?_append_right (Nat.not_lt.mp hlt)]
    cases hi : i - xs.length with
    | zero =>
      have : i = xs.length := by omega
      simp [this, eq_comm]
    | succ k =>
      have : i ≠ xs.length := by omega
      simp only [List.getElem?_cons_succ, this, false_and, iff_false]
      intro h
      exact hz (List.mem_of_getElem? h)

namespace Guarded

def constructionOf (arguments : String) : String :=
  "   new(m.allocate()) T(" ++ arguments ++ "); "

theorem constructionOf_inj {a b : String} (h : constructionOf a = constructionOf b) : a = b := by
  unfold constructionOf at h
  rwa [String.append_left_inj, String.append_right_inj] at h

/-! ## Which line constructs -/

def beginning (line : String) : List Char := line.toList.take 4

theorem beginning_append {s : String} (h : 4 ≤ s.toList.length) (t : String) :
    beginning (s ++ t) = beginning s := by
  rw [beginning, String.toList_append, List.take_append_of_le_length h]
  rfl

theorem beginning_constructionOf (a : String) : beginning (constructionOf a) = "   n".toList := by
  unfold constructionOf
  rw [String.append_assoc, beginning_append (by decide)]
  decide

theorem constructionOf_not_mem {xs : List String} (h : ∀ x ∈ xs, beginning x ≠ "   n".toList)
    (a : String) : constructionOf a ∉ xs :=
  fun hmem => h _ hmem (beginning_constructionOf a)

theorem beginning_front (g : Guarded) : ∀ x ∈ g.front, beginning x ≠ "   n".toList := by
  intro x hx
  simp only [front, List.mem_cons, List.not_mem_nil, or_false] at hx
  rcases hx with rfl | rfl | rfl
  · rw [String.append_assoc, beginning_append (by decide)]
    decide
  · rw [String.append_assoc, String.append_assoc, String.append_assoc, beginning_append (by decide)]
    decide
  · decide

theorem cut_render_eq (pragmas : Bool) (g : Guarded) :
    Text.cut '\n' (g.render pragmas) =
      (g.front ++ if pragmas then silence else []) ++
        constructionOf (Text.listing g.arguments) ::
          ((if pragmas then restore else []) ++ back ++ [""]) := by
  rw [render, Text.cut_unlines (g.newline_not_mem_lines pragmas)]
  cases pragmas <;> rfl

theorem getElem?_cut_render (pragmas : Bool) (g : Guarded) (i : Nat) (a : String) :
    (Text.cut '\n' (g.render pragmas))[i]? = some (constructionOf a) ↔
      i = (if pragmas then 7 else 3) ∧ a = Text.listing g.arguments := by
  have hfront := g.beginning_front
  have hsilence : ∀ x ∈ silence, beginning x ≠ "   n".toList := by decide
  have hrestore : ∀ x ∈ restore, beginning x ≠ "   n".toList := by decide
  have hback : ∀ x ∈ back ++ [""], beginning x ≠ "   n".toList := by decide
  have hlength : (g.front ++ if pragmas then silence else []).length =
      if pragmas then 7 else 3 := by
    cases pragmas <;> rfl
  have hbefore : constructionOf a ∉ g.front ++ if pragmas then silence else [] := by
    apply constructionOf_not_mem
    cases pragmas with
    | false => simpa using hfront
    | true => exact List.forall_mem_append.mpr ⟨hfront, hsilence⟩
  have hbehind : constructionOf a ∉ (if pragmas then restore else []) ++ back ++ [""] := by
    apply constructionOf_not_mem
    rw [List.append_assoc]
    cases pragmas with
    | false => exact hback
    | true => exact List.forall_mem_append.mpr ⟨hrestore, hback⟩
  rw [cut_render_eq, getElem?_middle hbefore hbehind, hlength]
  constructor
  · rintro ⟨hi, ha⟩
    exact ⟨hi, constructionOf_inj ha⟩
  · rintro ⟨hi, rfl⟩
    exact ⟨hi, rfl⟩

theorem length_cut_render (pragmas : Bool) (g : Guarded) :
    (Text.cut '\n' (g.render pragmas)).length = if pragmas then 14 else 7 := by
  rw [cut_render_eq]
  cases pragmas <;> rfl

theorem head_cut_render (pragmas : Bool) (g : Guarded) :
    (Text.cut '\n' (g.render pragmas))[0]? =
        some ("template <" ++ Text.listing g.templateParameters ++ ">") ∧
      (Text.cut '\n' (g.render pragmas))[1]? =
        some ("T * tpie_unsafe_new(" ++ Text.listing g.parameters ++ ") \x7b") := by
  have hname : "T * " ++ function ++ "(" = "T * tpie_unsafe_new(" := by decide
  rw [cut_render_eq, ← hname]
  exact ⟨rfl, rfl⟩

theorem render_ends (pragmas : Bool) (g : Guarded) :
    ∃ front, g.render pragmas = front ++ "\x7d\n" := by
  obtain ⟨before, hbefore⟩ : ∃ before, g.lines pragmas = before ++ ["\x7d"] := by
    cases pragmas with
    | false => exact ⟨g.front ++ [g.construction, "   return m.finalize();"], rfl⟩
    | true =>
      exact ⟨g.front ++ silence ++ [g.construction] ++ restore ++ ["   return m.finalize();"], rfl⟩
  have hlast : Text.unlines ["\x7d"] = "\x7d\n" := by decide
  rw [render, hbefore, Text.unlines_append, hlast]
  exact ⟨_, rfl⟩

/-! ## What the text determines -/

theorem eq_of_listing {g h : Guarded}
    (heq : Text.listing g.parameters = Text.listing h.parameters) : g = h := by
  cases g
  cases h
  rw [arity_eq_of_listing heq]

theorem eq_of_render {p q : Bool} {g h : Guarded} (heq : g.render p = h.render q) :
    p = q ∧ g = h := by
  have hlength := g.length_cut_render p
  have hline := (g.head_cut_render p).2
  rw [heq, length_cut_render] at hlength
  rw [heq, (h.head_cut_render q).2, Option.some_inj, String.append_left_inj,
    String.append_right_inj] at hline
  refine ⟨?_, (eq_of_listing hline).symm⟩
  cases p <;> cases q <;> simp at hlength ⊢

theorem parameter_eq (i : Nat) :
    parameter (argumentType i) i = "T" ++ toString i ++ " t" ++ toString i := by
  have hblank : " t" = " " ++ "t" := by decide
  rw [parameter, argumentType, argumentName, hblank, ← String.append_assoc, ← String.append_assoc]

/-- The text of a construction is read back line by line: two listings at its head, and one in the
only line that constructs. It tells the arity and the pragmas, and the parameters alone tell the
arity. -/
theorem render_reads_back (pragmas : Bool) (g : Guarded) :
    let lines := Text.cut '\n' (g.render pragmas)
    (∃ front, g.render pragmas = front ++ "\x7d\n") ∧
    (∃ types parameters arguments : String,
      lines[0]? = some ("template <" ++ types ++ ">") ∧
      lines[1]? = some ("T * tpie_unsafe_new(" ++ parameters ++ ") \x7b") ∧
      (∃ k, ∀ (i : Nat) (a : String), lines[i]? = some ("   new(m.allocate()) T(" ++ a ++ "); ") ↔
        i = k ∧ a = arguments) ∧
      Text.items types.toList = g.templateParameters ∧
      Text.items parameters.toList = g.parameters ∧
      Text.items arguments.toList = g.arguments) ∧
    (g.templateParameters.length = g.arity + 1 ∧ g.parameters.length = g.arity ∧
      g.arguments.length = g.arity) ∧
    g.templateParameters[0]? = some "typename T" ∧
    (∀ i < g.arity, g.templateParameters[i + 1]? = some ("typename T" ++ toString i) ∧
      g.parameters[i]? = some ("T" ++ toString i ++ " t" ++ toString i) ∧
      g.arguments[i]? = some ("t" ++ toString i)) ∧
    (∀ x ∈ g.templateParameters ++ g.parameters ++ g.arguments, x ≠ "") ∧
    (∀ q h, g.render pragmas = h.render q → pragmas = q ∧ g = h) ∧
    ∀ h : Guarded, Text.listing g.parameters = Text.listing h.parameters → g = h := by
  have ht : ∀ x ∈ g.templateParameters, IsItem x := isItem_of_mem_templateParameters
  have hp := g.isItem_of_mem_parameters
  have ha : ∀ x ∈ g.arguments, IsItem x := isItem_of_mem_argumentNames
  obtain ⟨hfirst, hsecond⟩ := g.head_cut_render pragmas
  refine ⟨g.render_ends pragmas, ⟨_, _, _, hfirst, hsecond, ⟨_, g.getElem?_cut_render pragmas⟩,
    items_of_listing ht, items_of_listing hp, items_of_listing ha⟩, ?_, ?_, ?_, ?_, ?_, ?_⟩
  · exact ⟨length_templateParameters g.arity, by simp [parameters], length_argumentNames g.arity⟩
  · rfl
  · intro i hi
    refine ⟨?_, ?_, ?_⟩
    · simp [templateParameters, Overloads.templateParameters, hi, typeParameter, argumentType,
        ← String.append_assoc]
    · rw [parameters, List.getElem?_map, List.getElem?_range hi, Option.map_some, parameter_eq]
    · simp [arguments, argumentNames, hi, argumentName]
  · intro x hx
    simp only [List.mem_append] at hx
    rcases hx with (hx | hx) | hx
    · exact (ht x hx).2
    · exact (hp x hx).2
    · exact (ha x hx).2
  · exact fun q h => eq_of_render
  · exact fun h => eq_of_listing

end Guarded

end Overloads
