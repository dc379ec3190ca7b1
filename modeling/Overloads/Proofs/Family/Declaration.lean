import Overloads.Proofs.Family.Decoding

/-!
# What a line declares

A line that holds a star declares a function: behind the star stands its name,
and behind the name its parameters in brackets. A guarded construction has one
such line, and a forwarding overload is one (`filterMap_declared?_lines`,
`declared?_render`).
-/

namespace Overloads

def declarator (line : String) : List Char := Text.behind ' ' (Text.behind '*' line.toList)

def declared? (line : String) : Option (String × String) :=
  if '*' ∈ line.toList then
    some (String.ofList (Text.before '(' (declarator line)),
      String.ofList (Text.before ')' (Text.behind '(' (declarator line))))
  else none

theorem declared?_of_not_mem {line : String} (h : '*' ∉ line.toList) : declared? line = none :=
  if_neg h

theorem declared?_eq_some {line : String} {front name parameters rest : List Char}
    (h : line.toList = front ++ '*' :: ' ' :: (name ++ '(' :: (parameters ++ ')' :: rest)))
    (hf : '*' ∉ front) (hn : '(' ∉ name) (hp : ')' ∉ parameters) :
    declared? line = some (String.ofList name, String.ofList parameters) := by
  have hd : declarator line = name ++ '(' :: (parameters ++ ')' :: rest) := by
    rw [declarator, h, Text.behind_append hf, Text.behind_self, Text.behind_self]
  rw [declared?, if_pos (by simp [h]), hd, Text.before_append hn, Text.before_self,
    List.append_nil, Text.behind_append hn, Text.behind_self, Text.before_append hp,
    Text.before_self, List.append_nil]

theorem not_mem_append {d : Char} {s t : String} (hs : d ∉ s.toList) (ht : d ∉ t.toList) :
    d ∉ (s ++ t).toList := by
  rw [String.toList_append, List.mem_append]
  exact not_or.mpr ⟨hs, ht⟩

/-! ## Lines of a guarded construction -/

namespace Guarded

theorem arity_eq_of_listing {m n : Nat}
    (h : Text.listing (Guarded.mk m).parameters = Text.listing (Guarded.mk n).parameters) :
    m = n := by
  have hp := listing_inj (isItem_of_mem_parameters _) (isItem_of_mem_parameters _) h
  simpa [parameters] using congrArg List.length hp

theorem newline_not_mem_lines (pragmas : Bool) (g : Guarded) :
    ∀ x ∈ g.lines pragmas, '\n' ∉ x.toList := by
  have ht : '\n' ∉ (Text.listing g.templateParameters).toList :=
    not_mem_listing isItem_of_mem_templateParameters (by decide)
  have hp : '\n' ∉ (Text.listing g.parameters).toList :=
    not_mem_listing g.isItem_of_mem_parameters (by decide)
  have ha : '\n' ∉ (Text.listing g.arguments).toList :=
    not_mem_listing isItem_of_mem_argumentNames (by decide)
  have hsilence : ∀ x ∈ silence, '\n' ∉ x.toList := by decide
  have hrestore : ∀ x ∈ restore, '\n' ∉ x.toList := by decide
  intro x hx
  simp only [lines, List.mem_append, List.mem_cons, List.not_mem_nil, or_false] at hx
  rcases hx with (((((rfl | rfl | rfl) | hx) | rfl) | hx) | rfl | rfl)
  · exact not_mem_append (not_mem_append (by decide) ht) (by decide)
  · exact not_mem_append (not_mem_append (by decide) hp) (by decide)
  · decide
  · cases pragmas with
    | false => cases hx
    | true => exact hsilence x hx
  · exact not_mem_append (not_mem_append (by decide) ha) (by decide)
  · cases pragmas with
    | false => cases hx
    | true => exact hrestore x hx
  · decide
  · decide

/-- Of the lines of a construction one declares a function. -/
theorem filterMap_declared?_lines (pragmas : Bool) (g : Guarded) :
    (g.lines pragmas).filterMap declared? =
      [(function, Text.listing g.parameters)] := by
  have ht : '*' ∉ (Text.listing g.templateParameters).toList :=
    not_mem_listing isItem_of_mem_templateParameters (by decide)
  have ha : '*' ∉ (Text.listing g.arguments).toList :=
    not_mem_listing isItem_of_mem_argumentNames (by decide)
  have hp : ')' ∉ (Text.listing g.parameters).toList :=
    not_mem_listing g.isItem_of_mem_parameters (by decide)
  have h₁ : declared? ("template <" ++ Text.listing g.templateParameters ++ ">") = none :=
    declared?_of_not_mem (not_mem_append (not_mem_append (by decide) ht) (by decide))
  have h₂ : declared? ("T * " ++ function ++ "(" ++ Text.listing g.parameters ++ ") \x7b") =
      some (function, Text.listing g.parameters) := by
    have hchars : ("T * " ++ function ++ "(" ++ Text.listing g.parameters ++ ") \x7b").toList =
        "T ".toList ++ '*' :: ' ' :: (function.toList ++ '(' ::
          ((Text.listing g.parameters).toList ++ ')' :: " \x7b".toList)) := by
      simp
    rw [declared?_eq_some hchars (by decide) (by decide) hp, String.ofList_toList,
      String.ofList_toList]
  have h₃ : declared? ("   new(m.allocate()) T(" ++ Text.listing g.arguments ++ "); ") = none :=
    declared?_of_not_mem (not_mem_append (not_mem_append (by decide) ha) (by decide))
  have hguard : declared? ("   " ++ guardType ++ "<T> m; ") = none := by decide
  have hsilence : silence.filterMap declared? = [] := by decide
  have hrestore : restore.filterMap declared? = [] := by decide
  have hend : ["   return m.finalize();", "\x7d"].filterMap declared? = [] := by
    decide
  cases pragmas with
  | false =>
    simp only [lines, List.filterMap_append, List.filterMap_cons, h₁, h₂, h₃, hguard]
    rfl
  | true =>
    simp only [lines, List.filterMap_append, List.filterMap_cons, h₁, h₂, h₃, hguard, hsilence,
      hrestore, if_true]
    rfl

end Guarded

/-! ## The line of a forwarding overload -/

theorem Forwarding.declared?_render (f : Forwarding) :
    declared? f.render = some (function, Text.listing f.parameters) := by
  have ht : '*' ∉ (Text.listing f.templateParameters).toList :=
    not_mem_listing isItem_of_mem_templateParameters (by decide)
  have hp : ')' ∉ (Text.listing f.parameters).toList :=
    not_mem_listing f.isItem_of_mem_parameters (by decide)
  have hchars : ∃ rest : List Char, f.render.toList =
      ("template <" ++ Text.listing f.templateParameters ++ "> T ").toList ++ '*' :: ' ' ::
        (function.toList ++ '(' :: ((Text.listing f.parameters).toList ++ ')' :: rest)) := by
    apply Exists.intro
    rw [f.toList_render]
    simp only [String.toList_append, List.append_assoc]
    rfl
  obtain ⟨rest, hrest⟩ := hchars
  have hfront : '*' ∉ ("template <" ++ Text.listing f.templateParameters ++ "> T ").toList :=
    not_mem_append (not_mem_append (by decide) ht) (by decide)
  rw [declared?_eq_some hrest hfront (by decide) hp, String.ofList_toList, String.ofList_toList]

end Overloads
