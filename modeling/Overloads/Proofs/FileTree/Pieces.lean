import Mathlib.Data.List.Induction
import Overloads.FileTree.Walk

/-!
# The pieces of a path

A path is its pieces with slashes between them, and whether it is absolute shows in the first one.
The last piece that leads somewhere parts the others (`reverse_dropWhile_idle`). The path of what
is above, from which directories are made, takes the first steps of the path
(`steps_of_mem_ancestors`).
-/

namespace Overloads.Path

theorem toList_join_cons_cons (p q : String) (ps : List String) :
    (join (p :: q :: ps)).toList = p.toList ++ '/' :: (join (q :: ps)).toList := by
  simp [join]

theorem toList_join : ∀ ps : List String,
    (join ps).toList = Text.join '/' (ps.map String.toList)
  | [] => rfl
  | [p] => by simp [join, Text.join]
  | p :: q :: ps => by
    rw [toList_join_cons_cons, toList_join (q :: ps)]
    rfl

theorem pieces_join {ps : List String} (hne : ps ≠ []) (h : ∀ p ∈ ps, '/' ∉ p.toList) :
    pieces (join ps) = ps := by
  have hpieces : ∀ p ∈ ps.map String.toList, '/' ∉ p := by simpa using h
  rw [pieces, Text.cut, toList_join, Text.pieces_join (by simpa using hne) hpieces, List.map_map]
  simp

theorem slash_not_mem_pieces (path : String) : ∀ p ∈ pieces path, '/' ∉ p.toList := by
  intro p hp
  obtain ⟨cs, hcs, rfl⟩ := List.mem_map.mp hp
  rw [String.toList_ofList]
  exact Text.sep_not_mem_pieces '/' path.toList cs hcs

theorem pieces_append_slash (path rest : String) :
    pieces (path ++ "/" ++ rest) = pieces path ++ pieces rest := by
  have hchars : (path ++ "/" ++ rest).toList = path.toList ++ '/' :: rest.toList := by simp
  rw [pieces, Text.cut, hchars, Text.pieces_append, List.map_append]
  rfl

/-- The first pieces of a path are the pieces of a path themselves. -/
theorem pieces_join_of_last {path last : String} {front tail : List String}
    (h : pieces path = front ++ last :: tail) :
    pieces (join (front ++ [last])) = front ++ [last] := by
  apply pieces_join (by simp)
  intro p hp
  apply slash_not_mem_pieces path
  rw [h, List.append_cons]
  exact List.mem_append_left tail hp

theorem isAbsolute_eq {path q : String} {ps : List String} (h : pieces path = q :: ps)
    (hpath : path ≠ "") : isAbsolute path = decide (q = "") := by
  unfold pieces Text.cut at h
  unfold isAbsolute
  cases hc : path.toList with
  | nil => exact absurd (String.toList_eq_nil_iff.mp hc) hpath
  | cons c cs =>
    rw [hc] at h
    by_cases hslash : c = '/'
    · subst hslash
      rw [Text.pieces_sep] at h
      cases h
      simp
    · cases hp : Text.pieces '/' cs with
      | nil => exact absurd hp (Text.pieces_ne_nil '/' cs)
      | cons p ps' =>
        simp only [Text.pieces, if_neg hslash, hp, List.map_cons, List.cons.injEq] at h
        rw [← h.1]
        simp [hslash, ← String.toList_eq_nil_iff]

theorem ne_empty_of_pieces {path p : String} (hp : p ∈ pieces path) (hne : p ≠ "") :
    path ≠ "" := by
  rintro rfl
  have hpieces : pieces "" = [""] := rfl
  rw [hpieces, List.mem_singleton] at hp
  exact hne hp

theorem ne_empty_of_idle {p : String} (h : idle p = false) : p ≠ "" := by
  rintro rfl
  cases h

theorem isAbsolute_join {path last : String} {front tail : List String}
    (h : pieces path = front ++ last :: tail) (hlast : idle last = false) :
    isAbsolute (join (front ++ [last])) = isAbsolute path := by
  have hne := ne_empty_of_idle hlast
  have hjoin : pieces (join (front ++ [last])) = front ++ [last] := pieces_join_of_last h
  have hpath : path ≠ "" := ne_empty_of_pieces (by simp [h]) hne
  have hbefore : join (front ++ [last]) ≠ "" := ne_empty_of_pieces (by simp [hjoin]) hne
  cases front with
  | nil => rw [isAbsolute_eq h hpath, isAbsolute_eq hjoin hbefore]
  | cons q front => rw [isAbsolute_eq h hpath, isAbsolute_eq hjoin hbefore]

/-- Behind the last piece that leads somewhere, if there is one, all pieces are idle. -/
theorem reverse_dropWhile_idle (ps : List String) :
    ps.reverse.dropWhile idle = [] ∧ (∀ p ∈ ps, idle p = true) ∨
      ∃ front last tail, ps = front ++ last :: tail ∧ idle last = false ∧
        (∀ p ∈ tail, idle p = true) ∧ ps.reverse.dropWhile idle = last :: front.reverse := by
  induction ps using List.reverseRecOn with
  | nil => exact .inl ⟨rfl, by simp⟩
  | append_singleton ps p ih =>
    rw [List.reverse_concat, List.dropWhile_cons]
    by_cases hp : idle p = true
    · rw [if_pos hp]
      rcases ih with ⟨hdrop, hall⟩ | ⟨front, last, tail, rfl, hlast, htail, hdrop⟩
      · refine .inl ⟨hdrop, ?_⟩
        simpa [or_imp, forall_and, hp] using hall
      · refine .inr ⟨front, last, tail ++ [p], by simp, hlast, ?_, hdrop⟩
        simpa [or_imp, forall_and, hp] using htail
    · rw [if_neg hp]
      exact .inr ⟨ps, p, [], rfl, by simpa using hp, by simp, rfl⟩

/-! ## Steps -/

theorem steps_of_last {path last : String} {front : List String}
    (h : pieces path = front ++ [last]) (hlast : last ≠ "") :
    steps path = (pieces path).filterMap step? := by
  have hslash : path.toList.getLast? ≠ some '/' := by
    intro hend
    obtain ⟨cs, hcs⟩ := List.getLast?_eq_some_iff.mp hend
    have hpath : path = String.ofList cs ++ "/" ++ "" := by
      rw [← String.toList_inj]
      simp [hcs]
    rw [hpath, pieces_append_slash] at h
    have hempty : pieces "" = [last] := List.append_inj_right' h rfl
    exact hlast (List.singleton_inj.mp hempty).symm
  unfold steps
  simp [hslash]

theorem exists_pieces_of_mem_beginnings {a : String} : ∀ {ps : List String}, a ∈ beginnings ps →
    ∃ front last tail, ps.reverse = front ++ last :: tail ∧ idle last = false ∧
      a = join (front ++ [last])
  | [], h => by cases h
  | p :: ps, h => by
    rw [beginnings] at h
    by_cases hp : idle p = true
    · rw [if_pos hp] at h
      obtain ⟨front, last, tail, hps, hlast, ha⟩ := exists_pieces_of_mem_beginnings h
      exact ⟨front, last, tail ++ [p], by simp [hps], hlast, ha⟩
    · rw [if_neg hp, List.mem_cons] at h
      rcases h with rfl | h
      · exact ⟨ps.reverse, p, [], by simp, by simpa using hp, by simp⟩
      · obtain ⟨front, last, tail, hps, hlast, ha⟩ := exists_pieces_of_mem_beginnings h
        exact ⟨front, last, tail ++ [p], by simp [hps], hlast, ha⟩

/-- What is above starts where the path does, and its steps are the first ones of the path. -/
theorem steps_of_mem_ancestors {path a : String} (h : a ∈ ancestors path) :
    isAbsolute a = isAbsolute path ∧ ∃ more, steps path = steps a ++ more := by
  obtain ⟨front, last, tail, hps, hlast, rfl⟩ := exists_pieces_of_mem_beginnings h
  rw [List.reverse_reverse] at hps
  have hjoin : pieces (join (front ++ [last])) = front ++ [last] := pieces_join_of_last hps
  refine ⟨isAbsolute_join hps hlast, ?_⟩
  rw [steps_of_last hjoin (ne_empty_of_idle hlast), hjoin]
  unfold steps
  rw [hps, List.append_cons, List.filterMap_append, List.append_assoc]
  exact ⟨_, rfl⟩

end Overloads.Path
