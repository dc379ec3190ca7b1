import Overloads.Proofs.Text.Token

/-!
# Names and where they are declared

A word that begins with no digit is a name. Behind `typename` it is declared, and so
it is as a variable, between the end of a type and a comma, a closing bracket or a
semicolon; elsewhere it is used. Reading from the front, `scopeBehind` refuses a
name that is used before it is declared or declared twice (`wellScoped_of_scope`).
-/

namespace Overloads

structure Occurrence where
  name : String
  declares : Bool
deriving DecidableEq

namespace Text

def use (name : String) : Occurrence := ⟨name, false⟩

def declaration (name : String) : Occurrence := ⟨name, true⟩

def isName (word : String) : Bool := word.toList.head?.any (!·.isDigit)

def keywords : List String := ["template", "typename", "const", "new", "return"]

def endsType : Token → Bool
  | .edge => false
  | .word s => isName s && !keywords.contains s
  | .mark c => ['&', '*', '>'].contains c

def endsDeclarator : Token → Bool
  | .mark c => [',', ')', ';'].contains c
  | _ => false

def declaresBetween (prev next : Token) : Bool :=
  prev = .word "typename" || endsType prev && endsDeclarator next

def occurrence (prev next : Token) : Token → List Occurrence
  | .word s => if isName s then [⟨s, declaresBetween prev next⟩] else []
  | _ => []

def firstOr (ts : List Token) (next : Token) : Token := ts.head?.getD next

def occurrencesIn (prev next : Token) : List Token → List Occurrence
  | [] => []
  | t :: ts => occurrence prev (firstOr ts next) t ++ occurrencesIn t next ts

def occurrences (s : String) : List Occurrence := occurrencesIn .edge .edge (tokens s)

/-- A mark takes part in no declaration but as the token in front of a name or behind it. -/
theorem occurrencesIn_append_mark (next : Token) (c : Char) (ys : List Token) :
    ∀ (prev : Token) (xs : List Token), occurrencesIn prev next (xs ++ .mark c :: ys) =
      occurrencesIn prev (.mark c) xs ++ occurrencesIn (.mark c) next ys
  | prev, [] => by simp [occurrencesIn, occurrence]
  | prev, x :: xs => by
    have hfirst : firstOr (xs ++ .mark c :: ys) next = firstOr xs (.mark c) := by
      cases xs <;> rfl
    rw [List.cons_append, occurrencesIn, occurrencesIn, hfirst, occurrencesIn_append_mark,
      List.append_assoc]

section
variable {α : Type} {item : α → String} {names : α → List Occurrence} {first last : Char}

theorem occurrencesIn_listing_behind : ∀ {xs : List α}, (∀ x ∈ xs, ∀ b ∈ [first, ','],
      ∀ a ∈ [last, ','], occurrencesIn (.mark b) (.mark a) (tokens (item x)) = names x) →
    ∀ b ∈ [first, ','],
      occurrencesIn (.mark b) (.mark last) (tokens (listing (xs.map item))) = xs.flatMap names
  | [], _, b, _ => by rfl
  | [x], h, b, hb => by
    have hlisting : listing [item x] = item x := by simp [listing]
    rw [List.map_singleton, hlisting, h x (by simp) b hb last (by simp)]
    simp
  | x :: y :: xs, h, b, hb => by
    have hrest : occurrencesIn (.mark ',') (.mark last) (tokens (listing ((y :: xs).map item))) =
        (y :: xs).flatMap names :=
      occurrencesIn_listing_behind (fun z hz => h z (List.mem_cons_of_mem x hz)) ',' (by simp)
    rw [List.map_cons, List.map_cons, tokens_listing_cons_cons, occurrencesIn_append_mark,
      h x (by simp) b hb ',' (by simp), ← List.map_cons, hrest]
    rfl

/-- The names in a listing are those of its items. -/
theorem occurrencesIn_listing {xs : List α} (h : ∀ x ∈ xs, ∀ b ∈ [first, ','], ∀ a ∈ [last, ','],
      occurrencesIn (.mark b) (.mark a) (tokens (item x)) = names x) :
    occurrencesIn (.mark first) (.mark last) (tokens (listing (xs.map item))) = xs.flatMap names :=
  occurrencesIn_listing_behind h first (by simp)

end

/-! ## Scopes -/

/-- The scope behind an occurrence, unless a declaration there is of a name that exists or a use
there is of one that does not. -/
def enter (words scope : List String) (o : Occurrence) : Option (List String) :=
  if o.name ∈ words ++ scope then (if o.declares then none else some scope)
  else if o.declares then some (scope ++ [o.name]) else none

def scopeBehind (words scope : List String) (os : List Occurrence) : Option (List String) :=
  os.foldlM (enter words) scope

/-- Names that occurrences declare, once each and in this order, beside words that need no
declaration. -/
structure WellScoped (words names : List String) (os : List Occurrence) : Prop where
  declared : (os.filter (·.declares)).map (·.name) = names
  nodup : names.Nodup
  fresh : ∀ x ∈ names, x ∉ words
  used : ∀ before o after, os = before ++ o :: after → o.declares = false →
    o.name ∈ words ∨ declaration o.name ∈ before

section
variable {words : List String}

theorem enter_eq_some {scope scope' : List String} {o : Occurrence}
    (h : enter words scope o = some scope') :
    (o.declares = true ∧ o.name ∉ words ++ scope ∧ scope' = scope ++ [o.name]) ∨
    (o.declares = false ∧ o.name ∈ words ++ scope ∧ scope' = scope) := by
  unfold enter at h
  by_cases hm : o.name ∈ words ++ scope
  · by_cases hd : o.declares = true
    · simp [hm, hd] at h
    · simp [hm, hd] at h
      exact Or.inr ⟨by simpa using hd, hm, h.symm⟩
  · by_cases hd : o.declares = true
    · simp [hm, hd] at h
      exact Or.inl ⟨hd, hm, h.symm⟩
    · simp [hm, hd] at h

theorem scopeBehind_cons_eq_some {scope names : List String} {o : Occurrence}
    {os : List Occurrence} (h : scopeBehind words scope (o :: os) = some names) :
    ∃ scope', enter words scope o = some scope' ∧ scopeBehind words scope' os = some names :=
  Option.bind_eq_some_iff.mp h

theorem scopeBehind_append {scope scope' : List String} {xs : List Occurrence}
    (h : scopeBehind words scope xs = some scope') (ys : List Occurrence) :
    scopeBehind words scope (xs ++ ys) = scopeBehind words scope' ys := by
  unfold scopeBehind at *
  rw [List.foldlM_append, h]
  rfl

/-- Whatever the scope in front, occurrences add what they declare. -/
theorem scope_eq : ∀ {os : List Occurrence} {scope names : List String},
    scopeBehind words scope os = some names →
      names = scope ++ (os.filter (·.declares)).map (·.name)
  | [], scope, names, h => by
    cases h
    simp
  | o :: os, scope, names, h => by
    obtain ⟨scope', ho, hos⟩ := scopeBehind_cons_eq_some h
    rw [scope_eq hos]
    rcases enter_eq_some ho with ⟨hd, -, rfl⟩ | ⟨hd, -, rfl⟩
    · simp [hd]
    · simp [hd]

theorem fresh_of_scope : ∀ {os : List Occurrence} {scope names : List String},
    scopeBehind words scope os = some names → scope.Nodup → (∀ x ∈ scope, x ∉ words) →
      names.Nodup ∧ ∀ x ∈ names, x ∉ words
  | [], scope, names, h, hn, hf => by
    cases h
    exact ⟨hn, hf⟩
  | o :: os, scope, names, h, hn, hf => by
    obtain ⟨scope', ho, hos⟩ := scopeBehind_cons_eq_some h
    rcases enter_eq_some ho with ⟨-, hm, rfl⟩ | ⟨-, -, rfl⟩
    · rw [List.mem_append, not_or] at hm
      apply fresh_of_scope hos
      · rw [List.nodup_append]
        refine ⟨hn, by simp, ?_⟩
        rintro x hx y hy rfl
        rw [List.mem_singleton] at hy
        exact hm.2 (hy ▸ hx)
      · intro x hx
        rw [List.mem_append, List.mem_singleton] at hx
        rcases hx with hx | rfl
        · exact hf x hx
        · exact hm.1
    · exact fresh_of_scope hos hn hf

theorem wellScoped_of_scope {names : List String} {os : List Occurrence}
    (h : scopeBehind words [] os = some names) : WellScoped words names os where
  declared := by rw [scope_eq h, List.nil_append]
  nodup := (fresh_of_scope h List.nodup_nil (by simp)).1
  fresh := (fresh_of_scope h List.nodup_nil (by simp)).2
  used := by
    rintro before o after rfl hd
    cases hb : scopeBehind words [] before with
    | none =>
      unfold scopeBehind at h hb
      rw [List.foldlM_append, hb] at h
      cases h
    | some scope =>
      rw [scopeBehind_append hb] at h
      obtain ⟨scope', ho, -⟩ := scopeBehind_cons_eq_some h
      rcases enter_eq_some ho with ⟨hd', -, -⟩ | ⟨-, hm, -⟩
      · rw [hd] at hd'
        cases hd'
      · rw [List.mem_append] at hm
        rcases hm with hm | hm
        · exact Or.inl hm
        · -- what is in scope has been declared in front
          rw [scope_eq hb, List.nil_append, List.mem_map] at hm
          obtain ⟨p, hp, hname⟩ := hm
          obtain ⟨hp, hdeclares⟩ := List.mem_filter.mp hp
          cases p
          simp at hname hdeclares
          subst hname hdeclares
          exact Or.inr hp

/-! ## Runs of occurrences -/

theorem scopeBehind_uses {scope : List String} : ∀ {names : List String},
    (∀ w ∈ names, w ∈ words ++ scope) → scopeBehind words scope (names.map use) = some scope
  | [], _ => rfl
  | w :: names, h => by
    have hfirst : scopeBehind words scope [use w] = some scope := by
      simp only [scopeBehind, List.foldlM_cons, List.foldlM_nil, enter, use, if_pos (h w (by simp))]
      rfl
    rw [List.map_cons, ← List.singleton_append, scopeBehind_append hfirst]
    exact scopeBehind_uses fun v hv => h v (by simp [hv])

theorem scopeBehind_uses_of_known (known : List String) {scope names : List String}
    (hk : ∀ w ∈ known, w ∈ scope) (h : ∀ w ∈ names, w ∈ words ++ known) :
    scopeBehind words scope (names.map use) = some scope := by
  apply scopeBehind_uses
  intro w hw
  have hm := h w hw
  rw [List.mem_append] at hm ⊢
  exact hm.imp_right (hk w)

theorem scopeBehind_declaration {scope : List String} {name : String} (h : name ∉ words ++ scope) :
    scopeBehind words scope [declaration name] = some (scope ++ [name]) := by
  simp only [scopeBehind, List.foldlM_cons, List.foldlM_nil, enter, declaration, if_neg h]
  rfl

/-- Names declared one after the other, each behind uses of its own. -/
theorem scopeBehind_flatMap {α : Type} {uses : α → List String} {name : α → String} :
    ∀ {xs : List α} {scope : List String},
      (∀ x ∈ xs, ∀ w ∈ uses x, w ∈ words ++ scope) → (∀ x ∈ xs, name x ∉ words) →
      (scope ++ xs.map name).Nodup →
      scopeBehind words scope (xs.flatMap fun x => (uses x).map use ++ [declaration (name x)]) =
        some (scope ++ xs.map name)
  | [], scope, _, _, _ => by simp [scopeBehind]
  | x :: xs, scope, hu, hw, hn => by
    have hnew : name x ∉ words ++ scope := by
      rw [List.mem_append, not_or]
      refine ⟨hw x (by simp), fun hm => ?_⟩
      exact (List.nodup_append.mp hn).2.2 _ hm _ (by simp) rfl
    have hsnoc : scope ++ (x :: xs).map name = (scope ++ [name x]) ++ xs.map name := by simp
    rw [hsnoc] at hn
    rw [hsnoc, List.flatMap_cons, List.append_assoc,
      scopeBehind_append (scopeBehind_uses (hu x (by simp))),
      scopeBehind_append (scopeBehind_declaration hnew)]
    apply scopeBehind_flatMap _ (fun y hy => hw y (by simp [hy])) hn
    intro y hy w hw
    have hm := hu y (by simp [hy]) w hw
    rw [List.mem_append] at hm
    rcases hm with hm | hm <;> simp [hm]

end

end Text

end Overloads
