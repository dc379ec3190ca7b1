import Overloads.Proofs.Family.Characters

/-!
# Reading an overload back

The line of a forwarding overload says what it was made from: its brackets
enclose its four listings, and the listing of its parameters alone determines
its constness (`eq_of_listing_parameters`).
-/

namespace Overloads.Forwarding

theorem toList_render (f : Forwarding) :
    f.render.toList =
      "template ".toList ++ '<' :: ((Text.listing f.templateParameters).toList ++ '>' ::
      (" T * ".toList ++ (function.toList ++ '(' :: ((Text.listing f.parameters).toList ++ ')' ::
      (" \x7breturn ".toList ++ (Guarded.function.toList ++ '<' ::
        ((Text.listing f.explicitTypes).toList ++ '>' ::
      '(' :: ((Text.listing f.arguments).toList ++ ')' :: ";\x7d".toList)))))))) := by
  have h₁ : "template <".toList = "template ".toList ++ ['<'] := by decide
  have h₂ : "> T * ".toList = '>' :: " T * ".toList := by decide
  have h₃ : "(".toList = ['('] := by decide
  have h₄ : ") \x7breturn ".toList = ')' :: " \x7breturn ".toList := by decide
  have h₅ : "<".toList = ['<'] := by decide
  have h₆ : ">(".toList = ['>', '('] := by decide
  have h₇ : ");\x7d".toList = ')' :: ";\x7d".toList := by decide
  unfold render
  simp only [String.toList_append, h₁, h₂, h₃, h₄, h₅, h₆, h₇, List.append_assoc,
    List.cons_append, List.nil_append]

theorem newline_not_mem_render (f : Forwarding) : '\n' ∉ f.render.toList := by
  have ht : '\n' ∉ (Text.listing f.templateParameters).toList :=
    not_mem_listing isItem_of_mem_templateParameters (by decide)
  have hp : '\n' ∉ (Text.listing f.parameters).toList :=
    not_mem_listing f.isItem_of_mem_parameters (by decide)
  have he : '\n' ∉ (Text.listing f.explicitTypes).toList :=
    not_mem_listing f.isItem_of_mem_explicitTypes (by decide)
  have ha : '\n' ∉ (Text.listing f.arguments).toList :=
    not_mem_listing isItem_of_mem_argumentNames (by decide)
  have hf : '\n' ∉ function.toList := by decide
  have hg : '\n' ∉ Guarded.function.toList := by decide
  rw [toList_render]
  simp [ht, hp, he, ha, hf, hg]

/-! ## What the brackets enclose -/

theorem enclosed_templateParameters (f : Forwarding) :
    Text.behind '<' (Text.before '>' f.render.toList) =
      (Text.listing f.templateParameters).toList := by
  have h : '>' ∉ (Text.listing f.templateParameters).toList :=
    not_mem_listing isItem_of_mem_templateParameters (by decide)
  rw [toList_render, Text.before_append (by decide), Text.before_cons (by decide),
    Text.before_append h, Text.before_self, List.append_nil, Text.behind_append (by decide),
    Text.behind_self]

theorem enclosed_parameters (f : Forwarding) :
    Text.behind '(' (Text.before ')' f.render.toList) = (Text.listing f.parameters).toList := by
  have h₁ : ')' ∉ (Text.listing f.templateParameters).toList :=
    not_mem_listing isItem_of_mem_templateParameters (by decide)
  have h₂ : ')' ∉ (Text.listing f.parameters).toList :=
    not_mem_listing f.isItem_of_mem_parameters (by decide)
  have h₃ : '(' ∉ (Text.listing f.templateParameters).toList :=
    not_mem_listing isItem_of_mem_templateParameters (by decide)
  rw [toList_render, Text.before_append (by decide), Text.before_cons (by decide),
    Text.before_append h₁, Text.before_cons (by decide), Text.before_append (by decide),
    Text.before_append (by decide), Text.before_cons (by decide), Text.before_append h₂,
    Text.before_self, List.append_nil]
  rw [Text.behind_append (by decide), Text.behind_cons (by decide), Text.behind_append h₃,
    Text.behind_cons (by decide), Text.behind_append (by decide), Text.behind_append (by decide),
    Text.behind_self]

theorem enclosed_explicitTypes (f : Forwarding) :
    Text.before '>' (Text.behind '<' (Text.behind '<' f.render.toList)) =
      (Text.listing f.explicitTypes).toList := by
  have h₁ : '<' ∉ (Text.listing f.templateParameters).toList :=
    not_mem_listing isItem_of_mem_templateParameters (by decide)
  have h₂ : '<' ∉ (Text.listing f.parameters).toList :=
    not_mem_listing f.isItem_of_mem_parameters (by decide)
  have h₃ : '>' ∉ (Text.listing f.explicitTypes).toList :=
    not_mem_listing f.isItem_of_mem_explicitTypes (by decide)
  rw [toList_render, Text.behind_append (by decide), Text.behind_self, Text.behind_append h₁,
    Text.behind_cons (by decide), Text.behind_append (by decide), Text.behind_append (by decide),
    Text.behind_cons (by decide), Text.behind_append h₂, Text.behind_cons (by decide),
    Text.behind_append (by decide), Text.behind_append (by decide), Text.behind_self]
  rw [Text.before_append h₃, Text.before_self, List.append_nil]

theorem enclosed_arguments (f : Forwarding) :
    Text.behindLast '(' (Text.beforeLast ')' f.render.toList) =
      (Text.listing f.arguments).toList := by
  have h : '(' ∉ (Text.listing f.arguments).toList :=
    not_mem_listing isItem_of_mem_argumentNames (by decide)
  obtain ⟨front, hfront⟩ : ∃ front : String,
      f.render = front ++ ">(" ++ Text.listing f.arguments ++ ");\x7d" := by
    unfold render
    exact ⟨_, rfl⟩
  have hline : f.render.toList =
      (front.toList ++ ['>'] ++ '(' :: (Text.listing f.arguments).toList) ++
        ')' :: ";\x7d".toList := by
    rw [hfront]
    simp
  rw [hline, Text.beforeLast_append (by decide), Text.behindLast_append h]

theorem eq_of_parameters {f g : Forwarding} (h : f.parameters = g.parameters) : f = g := by
  have ha : f.arity = g.arity := by
    rw [← f.length_parameters, h, g.length_parameters]
  rw [f.parameters_eq, g.parameters_eq, ← ha, List.map_inj_left] at h
  have hb : ∀ i < f.constness.arity, f.constness.bindingAt i = g.constness.bindingAt i := by
    intro i hi
    have hi' := h i (List.mem_range.mpr hi)
    rw [parameter, parameter, String.append_left_inj, String.append_left_inj] at hi'
    exact Binding.reference_inj hi'
  have hc := Constness.eq_of_bindingAt ha hb
  cases f
  cases g
  cases hc
  rfl

theorem eq_of_listing_parameters {f g : Forwarding}
    (h : Text.listing f.parameters = Text.listing g.parameters) : f = g :=
  eq_of_parameters (listing_inj f.isItem_of_mem_parameters g.isItem_of_mem_parameters h)

/-- A line is read back by its brackets, and its parameters alone tell which overload it is. -/
theorem render_decodes (f : Forwarding) :
    let line := f.render.toList
    '\n' ∉ line ∧
    Text.items (Text.behind '<' (Text.before '>' line)) = f.templateParameters ∧
    Text.items (Text.behind '(' (Text.before ')' line)) = f.parameters ∧
    Text.items (Text.before '>' (Text.behind '<' (Text.behind '<' line))) = f.explicitTypes ∧
    Text.items (Text.behindLast '(' (Text.beforeLast ')' line)) = f.arguments ∧
    (∀ x ∈ f.templateParameters ++ f.parameters ++ f.explicitTypes ++ f.arguments, x ≠ "") ∧
    (∀ g : Forwarding, Text.listing f.parameters = Text.listing g.parameters → f = g) ∧
    ∀ g : Forwarding, f.render = g.render → f = g := by
  have ht : ∀ x ∈ f.templateParameters, IsItem x := isItem_of_mem_templateParameters
  have hp := f.isItem_of_mem_parameters
  have he := f.isItem_of_mem_explicitTypes
  have ha : ∀ x ∈ f.arguments, IsItem x := isItem_of_mem_argumentNames
  refine ⟨f.newline_not_mem_render, ?_, ?_, ?_, ?_, ?_, fun g h => eq_of_listing_parameters h, ?_⟩
  · rw [f.enclosed_templateParameters, items_of_listing ht]
  · rw [f.enclosed_parameters, items_of_listing hp]
  · rw [f.enclosed_explicitTypes, items_of_listing he]
  · rw [f.enclosed_arguments, items_of_listing ha]
  · intro x hx
    simp only [List.mem_append] at hx
    rcases hx with ((hx | hx) | hx) | hx
    · exact (ht x hx).2
    · exact (hp x hx).2
    · exact (he x hx).2
    · exact (ha x hx).2
  · intro g h
    apply eq_of_listing_parameters
    rw [← String.toList_inj, ← f.enclosed_parameters, h, g.enclosed_parameters]

end Overloads.Forwarding
