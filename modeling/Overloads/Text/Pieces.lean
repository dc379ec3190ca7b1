/-!
# Pieces of a text

A text is a list of characters, or of bytes. `pieces` cuts it at every
occurrence of a separator, `join` puts pieces together again, and `listing`
writes items separated by a comma and a blank. Cutting undoes joining as long
as no piece holds the separator (`pieces_join`).
-/

namespace Overloads.Text
variable {α : Type}

/-- Cuts a text at every `sep`; there is always at least one piece. -/
def pieces [DecidableEq α] (sep : α) : List α → List (List α)
  | [] => [[]]
  | c :: cs =>
    if c = sep then [] :: pieces sep cs
    else match pieces sep cs with
      | [] => [[c]]
      | p :: ps => (c :: p) :: ps

def join (sep : α) : List (List α) → List α
  | [] => []
  | [p] => p
  | p :: q :: ps => p ++ sep :: join sep (q :: ps)

def cut (sep : Char) (s : String) : List String :=
  (pieces sep s.toList).map String.ofList

/-- Items separated by a comma and a blank; no item gives the empty text. -/
def listing (items : List String) : String :=
  ", ".intercalate items

def unlines (lines : List String) : String :=
  String.join (lines.map (· ++ "\n"))

theorem pieces_ne_nil [DecidableEq α] (sep : α) (cs : List α) : pieces sep cs ≠ [] := by
  cases cs with
  | nil => simp [pieces]
  | cons c cs =>
    simp only [pieces]
    split
    · simp
    · split <;> simp

theorem pieces_sep [DecidableEq α] (sep : α) (cs : List α) :
    pieces sep (sep :: cs) = [] :: pieces sep cs := by simp [pieces]

theorem pieces_append_sep [DecidableEq α] {sep : α} {p : List α} (hp : sep ∉ p) (cs : List α) :
    pieces sep (p ++ sep :: cs) = p :: pieces sep cs := by
  induction p with
  | nil => simp [pieces]
  | cons c p ih =>
    have hc : ¬ c = sep := fun e => hp (by simp [e])
    have hp' : sep ∉ p := fun h => hp (by simp [h])
    simp [pieces, hc, ih hp']

theorem pieces_of_not_mem [DecidableEq α] {sep : α} {p : List α} (hp : sep ∉ p) :
    pieces sep p = [p] := by
  induction p with
  | nil => rfl
  | cons c p ih =>
    have hc : ¬ c = sep := fun e => hp (by simp [e])
    have hp' : sep ∉ p := fun h => hp (by simp [h])
    simp [pieces, hc, ih hp']

theorem sep_not_mem_pieces [DecidableEq α] (sep : α) (cs : List α) :
    ∀ p ∈ pieces sep cs, sep ∉ p := by
  induction cs with
  | nil => simp [pieces]
  | cons c cs ih =>
    by_cases hc : c = sep
    · subst hc
      rw [pieces_sep]
      simpa using ih
    · cases hp : pieces sep cs with
      | nil => exact absurd hp (pieces_ne_nil sep cs)
      | cons p ps =>
        rw [hp, List.forall_mem_cons] at ih
        simp only [pieces, if_neg hc, hp]
        refine List.forall_mem_cons.mpr ⟨?_, ih.2⟩
        simp [ih.1, Ne.symm hc]

/-- A separator parts the pieces before it from those behind it. -/
theorem pieces_append [DecidableEq α] (sep : α) (bs cs : List α) :
    pieces sep (bs ++ sep :: cs) = pieces sep bs ++ pieces sep cs := by
  induction bs with
  | nil => simp [pieces]
  | cons b bs ih =>
    by_cases hb : b = sep
    · subst hb
      rw [List.cons_append, pieces_sep, pieces_sep, ih, List.cons_append]
    · cases hp : pieces sep bs with
      | nil => exact absurd hp (pieces_ne_nil sep bs)
      | cons p ps =>
        rw [hp] at ih
        simp [pieces, hb, hp, ih]

theorem pieces_join [DecidableEq α] {sep : α} {ps : List (List α)} (hne : ps ≠ [])
    (hps : ∀ p ∈ ps, sep ∉ p) : pieces sep (join sep ps) = ps := by
  induction ps with
  | nil => exact absurd rfl hne
  | cons p ps ih =>
    cases ps with
    | nil => exact pieces_of_not_mem (hps p (by simp))
    | cons q ps =>
      rw [join, pieces_append_sep (hps p (by simp)), ih (by simp)]
      intro r hr
      exact hps r (by simp only [List.mem_cons] at hr ⊢; exact .inr hr)

theorem unlines_append (xs ys : List String) : unlines (xs ++ ys) = unlines xs ++ unlines ys := by
  simp [unlines, String.join_append]

/-- Lines come out of a text whole; behind the last line feed is an empty piece. -/
theorem pieces_unlines : ∀ {lines : List String}, (∀ x ∈ lines, '\n' ∉ x.toList) →
    pieces '\n' (unlines lines).toList = lines.map String.toList ++ [[]]
  | [], _ => rfl
  | x :: lines, h => by
    have hchars : (unlines (x :: lines)).toList = x.toList ++ '\n' :: (unlines lines).toList := by
      simp [unlines]
    rw [hchars, pieces_append_sep (h x (by simp)),
      pieces_unlines fun y hy => h y (List.mem_cons_of_mem x hy)]
    rfl

theorem cut_unlines {lines : List String} (h : ∀ x ∈ lines, '\n' ∉ x.toList) :
    cut '\n' (unlines lines) = lines ++ [""] := by
  rw [cut, pieces_unlines h, List.map_append, List.map_map]
  simp

end Overloads.Text
