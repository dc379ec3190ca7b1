import Overloads.Proofs.Family.Names

/-!
# Scopes of a definition

The head of a definition declares its types and its arguments (`scope_head`). A
guarded construction goes on to declare its guard; otherwise both families only
use what has been declared and words of their own (`definitions_wellScoped`).
-/

namespace Overloads

open Text

/-! ## The head of a definition -/

def headTokens (function : String) (arity : Nat) (parameters : List String) : List Token :=
  [.word "template"] ++ .mark '<' :: (tokens (listing (templateParameters arity)) ++ .mark '>' ::
    ([.word "T", .mark '*', .word function] ++ .mark '(' :: tokens (listing parameters)))

def headOccurrences (function : String) (arity : Nat) (types : Nat → List String) :
    List Occurrence :=
  ["template"].map use ++
    (((typeNames arity).flatMap fun type => ["typename"].map use ++ [declaration type]) ++
      (["T", function].map use ++
        (List.range arity).flatMap fun i => (types i).map use ++ [declaration (argumentName i)]))

theorem occurrencesIn_head {function : String} {arity : Nat} {parameters : List String}
    {types : Nat → List String} (hname : isName function = true)
    (hparameters : occurrencesIn (.mark '(') (.mark ')') (tokens (listing parameters)) =
      (List.range arity).flatMap fun i => (types i).map use ++ [declaration (argumentName i)]) :
    occurrencesIn .edge (.mark ')') (headTokens function arity parameters) =
      headOccurrences function arity types := by
  have htemplate : occurrencesIn .edge (.mark '<') [.word "template"] = ["template"].map use := by
    decide
  have hT : isName "T" = true := by decide
  have hhead : occurrencesIn (.mark '>') (.mark '(') [.word "T", .mark '*', .word function] =
      ["T", function].map use := by
    simp [occurrencesIn, occurrence, hT, hname, declaresBetween, endsDeclarator, firstOr, use]
  unfold headTokens headOccurrences
  rw [occurrencesIn_append_mark, occurrencesIn_append_mark, occurrencesIn_append_mark, htemplate,
    occurrencesIn_templateParameters, hhead, hparameters]

section
variable {words : List String} {function : String} {arity : Nat} {types : Nat → List String}

theorem mem_typeNames {i : Nat} (h : i < arity) : argumentType i ∈ typeNames arity :=
  List.mem_cons_of_mem _ (List.mem_map.mpr ⟨i, List.mem_range.mpr h, rfl⟩)

theorem scope_typeNames (hfixed : ∀ w ∈ words, w ∈ fixedWords) (htypename : "typename" ∈ words) :
    scopeBehind words [] ((typeNames arity).flatMap fun type =>
      ["typename"].map use ++ [declaration type]) = some (typeNames arity) := by
  have hnodup : ([] ++ (typeNames arity).map fun type => type).Nodup := by
    rw [List.nil_append, List.map_id']
    exact nodup_declaredNames arity
  have huses : ∀ type ∈ typeNames arity, ∀ w ∈ ["typename"], w ∈ words ++ [] := by
    intro _ _ w hw
    rw [List.mem_singleton] at hw
    simp [hw, htypename]
  have hnew : ∀ type ∈ typeNames arity, type ∉ words := by
    intro type htype hw
    rw [typeNames, List.mem_cons, List.mem_map] at htype
    rcases htype with rfl | ⟨i, -, rfl⟩
    · exact absurd (hfixed _ hw) (by decide)
    · exact argumentType_not_fixed i (hfixed _ hw)
  have hscope := scopeBehind_flatMap huses hnew hnodup
  rw [List.nil_append, List.map_id'] at hscope
  exact hscope

theorem scope_head (hfixed : ∀ w ∈ words, w ∈ fixedWords)
    (hhead : ∀ w ∈ ["template", "typename", function], w ∈ words)
    (htypes : ∀ i < arity, ∀ w ∈ types i, w ∈ words ++ typeNames arity) :
    scopeBehind words [] (headOccurrences function arity types) =
      some (typeNames arity ++ argumentNames arity) := by
  have htemplate : scopeBehind words [] (["template"].map use) = some [] := by
    apply scopeBehind_uses
    intro w hw
    rw [List.mem_singleton] at hw
    simp [hw, hhead]
  have hfunction : scopeBehind words (typeNames arity) (["T", function].map use) =
      some (typeNames arity) := by
    apply scopeBehind_uses
    intro w hw
    rw [List.mem_append]
    simp at hw
    rcases hw with rfl | rfl
    · exact Or.inr List.mem_cons_self
    · exact Or.inl (hhead _ (by simp))
  have harguments : scopeBehind words (typeNames arity) ((List.range arity).flatMap fun i =>
      (types i).map use ++ [declaration (argumentName i)]) =
        some (typeNames arity ++ argumentNames arity) := by
    apply scopeBehind_flatMap
    · intro i hi
      exact htypes i (List.mem_range.mp hi)
    · intro i _ hw
      exact argumentName_not_fixed i (hfixed _ hw)
    · exact (List.nodup_append.mp (nodup_names arity)).1
  unfold headOccurrences
  rw [scopeBehind_append htemplate, scopeBehind_append (scope_typeNames hfixed (hhead _ (by simp))),
    scopeBehind_append hfunction, harguments]

end

/-! ## Guarded constructions -/

namespace Guarded

def words (pragmas : Bool) : List String :=
  ["template", "typename", "new", "return", function, guardType, "allocate", "finalize"] ++
    if pragmas then directiveWords else []

def bodyTokens (pragmas : Bool) : List Token :=
  .mark '\x7b' :: (tokens ("   " ++ guardType ++ "<T> m; ") ++
    ((if pragmas then silence.flatMap tokens else []) ++
      [.word "new", .mark '(', .word "m", .mark '.', .word "allocate", .mark '(', .mark ')',
        .mark ')', .word "T"]))

def endTokens (pragmas : Bool) : List Token :=
  .mark ';' :: ((if pragmas then restore.flatMap tokens else []) ++
    ["   return m.finalize();", "\x7d"].flatMap tokens)

theorem words_fixed (pragmas : Bool) : ∀ w ∈ words pragmas, w ∈ fixedWords := by
  cases pragmas <;> decide

theorem tokens_render (pragmas : Bool) (g : Guarded) :
    tokens (g.render pragmas) =
      headTokens function g.arity g.parameters ++ .mark ')' :: (bodyTokens pragmas ++ .mark '(' ::
        (tokens (listing g.arguments) ++ .mark ')' :: endTokens pragmas)) := by
  have htemplate : tokens ("template <" ++ listing g.templateParameters ++ ">") =
      [.word "template", .mark '<'] ++
        (tokens (listing (Overloads.templateParameters g.arity)) ++ [.mark '>']) := by
    have hfront : tokens "template <" = [.word "template", .mark '<'] := by decide
    have hback : tokens ">" = [.mark '>'] := by decide
    rw [tokens_around (by decide) (by decide), hfront, hback]
    rfl
  have hhead : tokens ("T * " ++ function ++ "(" ++ listing g.parameters ++ ") \x7b") =
      [.word "T", .mark '*', .word function, .mark '('] ++
        (tokens (listing g.parameters) ++ [.mark ')', .mark '\x7b']) := by
    have hfront : tokens ("T * " ++ function ++ "(") =
        [.word "T", .mark '*', .word function, .mark '('] := by decide
    have hback : tokens ") \x7b" = [.mark ')', .mark '\x7b'] := by decide
    rw [tokens_around (by decide) (by decide), hfront, hback]
  have hconstruction : tokens ("   new(m.allocate()) T(" ++ listing g.arguments ++ "); ") =
      [.word "new", .mark '(', .word "m", .mark '.', .word "allocate", .mark '(', .mark ')',
        .mark ')', .word "T", .mark '('] ++
          (tokens (listing g.arguments) ++ [.mark ')', .mark ';']) := by
    have hfront : tokens "   new(m.allocate()) T(" =
        [.word "new", .mark '(', .word "m", .mark '.', .word "allocate", .mark '(', .mark ')',
          .mark ')', .word "T", .mark '('] := by decide
    have hback : tokens "); " = [.mark ')', .mark ';'] := by decide
    rw [tokens_around (by decide) (by decide), hfront, hback]
  unfold render lines
  rw [tokens_unlines]
  simp only [List.flatMap_append, List.flatMap_cons, List.flatMap_nil, htemplate, hhead,
    hconstruction, headTokens, bodyTokens, endTokens]
  cases pragmas <;> simp

theorem occurrencesIn_bodyTokens (pragmas : Bool) :
    occurrencesIn (.mark ')') (.mark '(') (bodyTokens pragmas) =
      [guardType, "T"].map use ++ ([declaration guardName] ++
        ((if pragmas then ["ifdef", "WIN32", "pragma", "warning", "push", "pragma", "warning",
          "disable", "endif"] else []) ++ ["new", guardName, "allocate", "T"]).map use) := by
  cases pragmas <;> decide

theorem occurrencesIn_endTokens (pragmas : Bool) :
    occurrencesIn (.mark ')') .edge (endTokens pragmas) =
      ((if pragmas then ["ifdef", "WIN32", "pragma", "warning", "pop", "endif"] else []) ++
        ["return", guardName, "finalize"]).map use := by
  cases pragmas <;> decide

theorem occurrences_render (pragmas : Bool) (g : Guarded) :
    occurrences (g.render pragmas) =
      headOccurrences function g.arity (fun i => [argumentType i]) ++
        (occurrencesIn (.mark ')') (.mark '(') (bodyTokens pragmas) ++
          ((argumentNames g.arity).map use ++
            occurrencesIn (.mark ')') .edge (endTokens pragmas))) := by
  have hhead : occurrencesIn .edge (.mark ')') (headTokens function g.arity g.parameters) =
      headOccurrences function g.arity fun i => [argumentType i] :=
    occurrencesIn_head (by decide) (occurrencesIn_listing fun i _ => occurrencesIn_parameter i)
  unfold occurrences
  rw [tokens_render, occurrencesIn_append_mark, occurrencesIn_append_mark,
    occurrencesIn_append_mark, hhead, arguments, occurrencesIn_argumentNames]

theorem scope_bodyTokens (pragmas : Bool) {scope : List String} (hT : "T" ∈ scope)
    (hguard : guardName ∉ words pragmas ++ scope) :
    scopeBehind (words pragmas) scope (occurrencesIn (.mark ')') (.mark '(') (bodyTokens pragmas)) =
      some (scope ++ [guardName]) := by
  have hknown : ∀ x ∈ ["T", guardName], x ∈ scope ++ [guardName] := by
    intro x hx
    simp at hx
    rcases hx with rfl | rfl <;> simp [hT]
  have hfront : scopeBehind (words pragmas) scope ([guardType, "T"].map use) = some scope := by
    apply scopeBehind_uses_of_known ["T"] (by simpa using hT)
    cases pragmas <;> decide
  rw [occurrencesIn_bodyTokens, scopeBehind_append hfront,
    scopeBehind_append (scopeBehind_declaration hguard)]
  apply scopeBehind_uses_of_known _ hknown
  cases pragmas <;> decide

theorem scope_render (pragmas : Bool) (g : Guarded) :
    scopeBehind (words pragmas) [] (occurrences (g.render pragmas)) =
      some (typeNames g.arity ++ argumentNames g.arity ++ [guardName]) := by
  have hT : "T" ∈ typeNames g.arity ++ argumentNames g.arity :=
    List.mem_append_left _ List.mem_cons_self
  have hguard : guardName ∉ words pragmas ++ (typeNames g.arity ++ argumentNames g.arity) := by
    rw [List.mem_append, not_or]
    refine ⟨fun hw => absurd (words_fixed pragmas _ hw) (by decide), fun hm => ?_⟩
    exact (List.nodup_append.mp (nodup_names g.arity)).2.2 _ hm _ (by simp) rfl
  have hhead : scopeBehind (words pragmas) []
      (headOccurrences function g.arity fun i => [argumentType i]) =
        some (typeNames g.arity ++ argumentNames g.arity) := by
    apply scope_head (words_fixed pragmas) (by cases pragmas <;> decide)
    intro i hi w hw
    rw [List.mem_singleton] at hw
    rw [hw]
    exact List.mem_append_right _ (mem_typeNames hi)
  have harguments : scopeBehind (words pragmas)
      (typeNames g.arity ++ argumentNames g.arity ++ [guardName])
      ((argumentNames g.arity).map use) =
        some (typeNames g.arity ++ argumentNames g.arity ++ [guardName]) :=
    scopeBehind_uses fun w hw => by simp [hw]
  have hend : scopeBehind (words pragmas)
      (typeNames g.arity ++ argumentNames g.arity ++ [guardName])
      (occurrencesIn (.mark ')') .edge (endTokens pragmas)) =
        some (typeNames g.arity ++ argumentNames g.arity ++ [guardName]) := by
    rw [occurrencesIn_endTokens]
    apply scopeBehind_uses_of_known [guardName] (by simp)
    cases pragmas <;> decide
  rw [occurrences_render, scopeBehind_append hhead,
    scopeBehind_append (scope_bodyTokens pragmas hT hguard), scopeBehind_append harguments, hend]

end Guarded

/-! ## Forwarding overloads -/

namespace Forwarding

def words : List String := ["template", "typename", "const", "return", function, Guarded.function]

theorem words_fixed : ∀ w ∈ words, w ∈ fixedWords := by decide

theorem tokens_render (f : Forwarding) :
    tokens f.render =
      headTokens function f.arity f.parameters ++ .mark ')' ::
        ([.mark '\x7b', .word "return", .word Guarded.function] ++ .mark '<' ::
          (tokens (listing f.explicitTypes) ++ .mark '>' :: ([] ++ .mark '(' ::
            (tokens (listing f.arguments) ++ .mark ')' :: [.mark ';', .mark '\x7d'])))) := by
  have hrender : f.render = "template <" ++ (listing f.templateParameters ++
      (("> T * " ++ function ++ "(") ++ (listing f.parameters ++
        ((") \x7breturn " ++ Guarded.function ++ "<") ++ (listing f.explicitTypes ++
          (">(" ++ (listing f.arguments ++ ");\x7d"))))))) := by
    unfold render
    simp only [String.append_assoc]
  have h₁ : tokens "template <" = [.word "template", .mark '<'] := by decide
  have h₂ : tokens ("> T * " ++ function ++ "(") =
      [.mark '>', .word "T", .mark '*', .word function, .mark '('] := by decide
  have h₃ : tokens (") \x7breturn " ++ Guarded.function ++ "<") =
      [.mark ')', .mark '\x7b', .word "return", .word Guarded.function, .mark '<'] := by decide
  have h₄ : tokens ">(" = [.mark '>', .mark '('] := by decide
  have h₅ : tokens ");\x7d" = [.mark ')', .mark ';', .mark '\x7d'] := by decide
  rw [hrender, tokens_append_left (by decide), tokens_between (by decide) (by decide),
    tokens_between (by decide) (by decide), tokens_between (by decide) (by decide), h₁, h₂, h₃, h₄,
    tokens_append_right (by decide), h₅]
  simp [headTokens, templateParameters]

def typeWords (f : Forwarding) (i : Nat) : List String :=
  referenceWords (f.constness.bindingAt i) (argumentType i)

theorem occurrencesIn_explicitTypes (f : Forwarding) :
    occurrencesIn (.mark '<') (.mark '>') (tokens (listing f.explicitTypes)) =
      (constructedType :: (List.range f.arity).flatMap f.typeWords).map use := by
  have hitems : f.explicitTypes = (none :: (List.range f.arity).map some).map fun
      | none => constructedType
      | some i => f.referenceType i := by
    simp [f.explicitTypes_eq]
  have hlisting : occurrencesIn (.mark '<') (.mark '>') (tokens (listing f.explicitTypes)) =
      (none :: (List.range f.arity).map some).flatMap fun
        | none => [constructedType].map use
        | some i => (f.typeWords i).map use := by
    rw [hitems]
    apply occurrencesIn_listing
    intro item _ b hb a _
    have hb' : b ∈ ['<', '(', ','] := by
      simp at hb ⊢
      rcases hb with rfl | rfl <;> simp
    cases item with
    | none =>
      have htokens : tokens constructedType = [.word "T"] := by decide
      have hname : isName "T" = true := by decide
      simp only [htokens]
      simp at hb
      rcases hb with rfl | rfl <;>
        simp [occurrencesIn, occurrence, hname, declaresBetween, endsType, use, constructedType]
    | some i => exact occurrencesIn_reference _ i _ b hb'
  rw [hlisting]
  simp [List.flatMap_map, List.map_flatMap]

theorem occurrences_render (f : Forwarding) :
    occurrences f.render =
      headOccurrences function f.arity f.typeWords ++ (["return", Guarded.function].map use ++
        ((constructedType :: (List.range f.arity).flatMap f.typeWords).map use ++
          (argumentNames f.arity).map use)) := by
  have hhead : occurrencesIn .edge (.mark ')') (headTokens function f.arity f.parameters) =
      headOccurrences function f.arity f.typeWords := by
    apply occurrencesIn_head (by decide)
    rw [f.parameters_eq]
    exact occurrencesIn_listing fun i _ => occurrencesIn_referenceParameter _ i
  have hcall : occurrencesIn (.mark ')') (.mark '<')
      [.mark '\x7b', .word "return", .word Guarded.function] =
        ["return", Guarded.function].map use := by
    decide
  have hnone : occurrencesIn (.mark '>') (.mark '(') [] = [] := rfl
  have hend : occurrencesIn (.mark ')') .edge [.mark ';', .mark '\x7d'] = [] := by decide
  unfold occurrences
  rw [tokens_render, occurrencesIn_append_mark, occurrencesIn_append_mark,
    occurrencesIn_append_mark, occurrencesIn_append_mark, occurrencesIn_append_mark, hhead, hcall,
    occurrencesIn_explicitTypes, hnone, arguments, occurrencesIn_argumentNames, hend,
    List.nil_append, List.append_nil]

theorem mem_of_mem_typeWords (f : Forwarding) {i : Nat} (hi : i < f.arity) :
    ∀ w ∈ f.typeWords i, w ∈ words ++ typeNames f.arity := by
  have hconst : "const" ∈ words := by decide
  have htype : argumentType i ∈ typeNames f.arity := mem_typeNames hi
  intro w hw
  unfold typeWords at hw
  cases hb : f.constness.bindingAt i with
  | mutable =>
    simp [hb, referenceWords] at hw
    simp [hw, htype]
  | constant =>
    simp [hb, referenceWords] at hw
    rcases hw with rfl | rfl
    · simp [hconst]
    · simp [htype]

theorem scope_render (f : Forwarding) :
    scopeBehind words [] (occurrences f.render) =
      some (typeNames f.arity ++ argumentNames f.arity) := by
  have hhead : scopeBehind words [] (headOccurrences function f.arity f.typeWords) =
      some (typeNames f.arity ++ argumentNames f.arity) :=
    scope_head words_fixed (by decide) fun i hi => f.mem_of_mem_typeWords hi
  have hcall : scopeBehind words (typeNames f.arity ++ argumentNames f.arity)
      (["return", Guarded.function].map use) = some (typeNames f.arity ++ argumentNames f.arity) :=
    scopeBehind_uses_of_known [] (by simp) (by decide)
  have hexplicit : scopeBehind words (typeNames f.arity ++ argumentNames f.arity)
      ((constructedType :: (List.range f.arity).flatMap f.typeWords).map use) =
        some (typeNames f.arity ++ argumentNames f.arity) := by
    apply scopeBehind_uses_of_known (typeNames f.arity) fun x hx => List.mem_append_left _ hx
    intro w hw
    rw [List.mem_cons, List.mem_flatMap] at hw
    rcases hw with rfl | ⟨i, hi, hw⟩
    · exact List.mem_append_right _ List.mem_cons_self
    · exact f.mem_of_mem_typeWords (List.mem_range.mp hi) w hw
  have harguments : scopeBehind words (typeNames f.arity ++ argumentNames f.arity)
      ((argumentNames f.arity).map use) = some (typeNames f.arity ++ argumentNames f.arity) :=
    scopeBehind_uses fun w hw => by simp [hw]
  rw [occurrences_render, scopeBehind_append hhead, scopeBehind_append hcall,
    scopeBehind_append hexplicit, harguments]

end Forwarding

/-- Every name of a definition is a fixed word or declared once in it, in front of its uses. -/
theorem definitions_wellScoped :
    (∀ (pragmas : Bool) (g : Guarded),
      WellScoped (Guarded.words pragmas) (typeNames g.arity ++ argumentNames g.arity ++ ["m"])
        (occurrences (g.render pragmas))) ∧
    (∀ f : Forwarding,
      WellScoped Forwarding.words (typeNames f.arity ++ argumentNames f.arity)
        (occurrences f.render)) ∧
    (∀ arity, ∀ name ∈ typeNames arity ++ argumentNames arity ++ ["m"], name ∉ fixedWords) ∧
    (∀ pragmas, ∀ w ∈ Guarded.words pragmas, w ∈ fixedWords) ∧
    ∀ w ∈ Forwarding.words, w ∈ fixedWords := by
  refine ⟨?_, ?_, ?_, Guarded.words_fixed, Forwarding.words_fixed⟩
  · intro pragmas g
    exact wellScoped_of_scope (g.scope_render pragmas)
  · intro f
    exact wellScoped_of_scope f.scope_render
  · intro arity name hname
    simp only [typeNames, argumentNames, List.mem_append, List.mem_cons, List.mem_map,
      List.not_mem_nil, or_false] at hname
    rcases hname with ((rfl | ⟨i, -, rfl⟩) | ⟨i, -, rfl⟩) | rfl
    · decide
    · exact argumentType_not_fixed i
    · exact argumentName_not_fixed i
    · decide

def secondConstant : Forwarding := ⟨⟨2, 2, by decide, by decide⟩⟩

/-- A definition as it is written, with its names, and one whose last argument is `t11`. -/
theorem last_of_twelve_wellScoped :
    secondConstant.render = "template <typename T, typename T0, typename T1> " ++
        "T * tpie_new(T0& t0, const T1& t1) " ++
        "\x7breturn tpie_unsafe_new<T, T0&, const T1&>(t0, t1);\x7d" ∧
      WellScoped Forwarding.words ["T", "T0", "T1", "t0", "t1"]
        (occurrences secondConstant.render) ∧
      WellScoped (Guarded.words true) (typeNames 12 ++ argumentNames 12 ++ ["m"])
        (occurrences ((Guarded.mk 12).render true)) ∧
      "t11" ∈ typeNames 12 ++ argumentNames 12 ++ ["m"] ∧ "t11" ∉ fixedWords := by
  obtain ⟨hguarded, hforwarding, hfixed, -⟩ := definitions_wellScoped
  have hnames : typeNames secondConstant.arity ++ argumentNames secondConstant.arity =
      ["T", "T0", "T1", "t0", "t1"] := by
    decide +kernel
  have hname : "t11" ∈ typeNames 12 ++ argumentNames 12 ++ ["m"] := by decide
  refine ⟨by decide +kernel, ?_, hguarded true ⟨12⟩, hname, hfixed 12 "t11" hname⟩
  rw [← hnames]
  exact hforwarding secondConstant

end Overloads
