import Overloads.Output
import Overloads.Proofs.FileTree.Pieces

/-!
# The directory and the name in a path

The last name of a path is the file's, and the others are those of the path of its directory
(`split_by_names`). Slashes and idle dots behind a path say nothing.
-/

namespace Overloads

namespace Path

variable {path name : String} {before tail : List String}

theorem filter_of_idle {ps : List String} (h : ∀ p ∈ ps, idle p = true) :
    ps.filter (fun p => !idle p) = [] := by
  rw [List.filter_eq_nil_iff]
  intro p hp
  simp [h p hp]

theorem filter_of_last (before : List String) (hname : idle name = false)
    (htail : ∀ p ∈ tail, idle p = true) :
    (before ++ name :: tail).filter (fun p => !idle p) =
      before.filter (fun p => !idle p) ++ [name] := by
  rw [List.filter_append, List.filter_cons_of_pos (by simp [hname]), filter_of_idle htail]

theorem names_of_last (h : pieces path = before ++ name :: tail) (hname : idle name = false)
    (htail : ∀ p ∈ tail, idle p = true) :
    names path = before.filter (fun p => !idle p) ++ [name] := by
  rw [names, h, filter_of_last before hname htail]

theorem parent_spec (h : pieces path = before ++ name :: tail) :
    names (parent (isAbsolute path) before.reverse) = before.filter (fun p => !idle p) ∧
      parent (isAbsolute path) before.reverse ≠ "" ∧
      isAbsolute (parent (isAbsolute path) before.reverse) = isAbsolute path ∧
      (before.filter (fun p => !idle p) = [] →
        parent (isAbsolute path) before.reverse = if isAbsolute path then "/" else ".") := by
  rcases reverse_dropWhile_idle before with
    ⟨hdrop, hall⟩ | ⟨front, last, idles, rfl, hlast, hidles, hdrop⟩
  · simp only [parent, hdrop, filter_of_idle hall]
    cases isAbsolute path with
    | false => exact ⟨by decide, by decide, by decide, by simp⟩
    | true => exact ⟨by decide, by decide, by decide, by simp⟩
  · have hparent : parent (isAbsolute path) (front ++ last :: idles).reverse =
        join (front ++ [last]) := by
      simp only [parent, hdrop]
      rw [List.reverse_cons, List.reverse_reverse]
    rw [List.append_assoc, List.cons_append] at h
    have hpieces := pieces_join_of_last h
    have hnames := names_of_last hpieces hlast (by simp)
    rw [hparent, filter_of_last front hlast hidles]
    refine ⟨hnames, ?_, isAbsolute_join h hlast, by simp⟩
    exact ne_empty_of_pieces (by simp [hpieces]) (ne_empty_of_idle hlast)

theorem split?_cases (path : String) :
    (names path = [] ∧ split? path = none) ∨
      ∃ before name tail, pieces path = before ++ name :: tail ∧ idle name = false ∧
        names path = before.filter (fun p => !idle p) ++ [name] ∧
        split? path = if name = ".." then none
          else some (parent (isAbsolute path) before.reverse, name) := by
  rcases reverse_dropWhile_idle (pieces path) with
    ⟨hdrop, hall⟩ | ⟨before, name, tail, hpieces, hname, htail, hdrop⟩
  · refine .inl ⟨filter_of_idle hall, ?_⟩
    simp only [split?, hdrop]
  · refine .inr ⟨before, name, tail, hpieces, hname, names_of_last hpieces hname htail, ?_⟩
    simp only [split?, hdrop]

theorem split?_eq_none_iff (path : String) :
    split? path = none ↔ names path = [] ∨ (names path).getLast? = some ".." := by
  rcases split?_cases path with ⟨hnames, hsplit⟩ | ⟨before, name, tail, -, -, hnames, hsplit⟩
  · simp [hnames, hsplit]
  · by_cases hup : name = ".."
    · simp [hnames, hsplit, hup]
    · simp [hnames, hsplit, hup]

theorem split?_eq_some {directory : String} (h : split? path = some (directory, name)) :
    names path = names directory ++ [name] ∧
      name ≠ "" ∧ '/' ∉ name.toList ∧ name ≠ "." ∧ name ≠ ".." ∧
      directory ≠ "" ∧ isAbsolute directory = isAbsolute path ∧
      (names directory = [] → directory = if isAbsolute path then "/" else ".") := by
  rcases split?_cases path with
    ⟨-, hsplit⟩ | ⟨before, name', tail, hpieces, hname, hnames, hsplit⟩
  · rw [hsplit] at h
    cases h
  · rw [hsplit] at h
    split at h
    · cases h
    · next hup =>
      cases h
      obtain ⟨hparent, hempty, habsolute, hbare⟩ := parent_spec hpieces
      rw [hparent]
      refine ⟨hnames, ne_empty_of_idle hname, ?_, ?_, hup, hempty, habsolute, hbare⟩
      · exact slash_not_mem_pieces path name (by simp [hpieces])
      · rintro rfl
        cases hname

/-! ## Idle pieces at the end -/

theorem split?_append_idle (path : String) {s : String} (hs : s = "/" ∨ s = "/.") :
    split? (path ++ s) = split? path := by
  obtain ⟨q, hq, hidle⟩ : ∃ q, pieces (path ++ s) = pieces path ++ [q] ∧ idle q = true := by
    rcases hs with rfl | rfl
    · have happend : path ++ "/" = path ++ "/" ++ "" := by simp
      rw [happend, pieces_append_slash]
      exact ⟨"", rfl, rfl⟩
    · have happend : path ++ "/." = path ++ "/" ++ "." := by
        rw [String.append_assoc]
        rfl
      rw [happend, pieces_append_slash]
      exact ⟨".", rfl, rfl⟩
  by_cases hpath : path = ""
  · subst hpath
    rcases hs with rfl | rfl <;> decide
  · have habsolute : isAbsolute (path ++ s) = isAbsolute path := by
      cases hpieces : pieces path with
      | nil => simp [pieces, Text.cut, Text.pieces_ne_nil] at hpieces
      | cons p ps =>
        rw [hpieces] at hq
        rw [isAbsolute_eq hpieces hpath, isAbsolute_eq hq fun h => hpath ?_]
        exact (String.append_eq_empty_iff.mp h).1
    unfold split?
    rw [hq, habsolute, List.reverse_concat, List.dropWhile_cons, if_pos hidle]

theorem split?_append_idles (path : String) : ∀ {ss : List String},
    (∀ s ∈ ss, s = "/" ∨ s = "/.") → split? (path ++ String.join ss) = split? path
  | [], _ => by simp
  | s :: ss, h => by
    have hs := List.forall_mem_cons.mp h
    rw [String.join_cons, ← String.append_assoc, split?_append_idles (path ++ s) hs.2,
      split?_append_idle path hs.1]

end Path

namespace Output

theorem split_eq_ok_iff {path : String} {p : String × String} :
    split path = .ok p ↔ Path.split? path = some p := by
  unfold split
  cases Path.split? path with
  | none => simp
  | some q => simp

theorem split_eq_error_iff {path : String} {f : Fault} :
    split path = .error f ↔ Path.split? path = none ∧ f = .invalidOutputPath path := by
  unfold split
  cases Path.split? path with
  | none => simp [eq_comm]
  | some q => simp

/-- A path names a file if it has names and does not end in `..`. The last name is the file's, and
the path of its directory has the others and starts where the path does. -/
theorem split_by_names (path : String) :
    (∀ f, split path = .error f ↔ f = .invalidOutputPath path ∧
      (Path.names path = [] ∨ (Path.names path).getLast? = some "..")) ∧
    (¬ (Path.names path = [] ∨ (Path.names path).getLast? = some "..") →
      ∃ parent name, split path = .ok (parent, name) ∧
        Path.names path = Path.names parent ++ [name] ∧
        name ≠ "" ∧ '/' ∉ name.toList ∧ name ≠ "." ∧ name ≠ ".." ∧
        parent ≠ "" ∧ Path.isAbsolute parent = Path.isAbsolute path ∧
        (Path.names parent = [] → parent = if Path.isAbsolute path then "/" else ".")) ∧
    ∀ ss : List String, (∀ s ∈ ss, s = "/" ∨ s = "/.") → ∀ p,
      split (path ++ String.join ss) = .ok p ↔ split path = .ok p := by
  refine ⟨fun f => ?_, fun hnames => ?_, fun ss hss p => ?_⟩
  · rw [split_eq_error_iff, Path.split?_eq_none_iff, and_comm]
  · cases hsplit : Path.split? path with
    | none => exact absurd ((Path.split?_eq_none_iff path).mp hsplit) hnames
    | some p =>
      obtain ⟨parent, name⟩ := p
      exact ⟨parent, name, split_eq_ok_iff.mpr hsplit, Path.split?_eq_some hsplit⟩
  · rw [split_eq_ok_iff, split_eq_ok_iff, Path.split?_append_idles path hss]

/-- Idle pieces in front of a name, between names and behind them. -/
theorem split_by_names_idle : ∃ parent name, split ".//a/./../b//./" = .ok (parent, name) ∧
    Path.names parent = ["a", ".."] ∧ name = "b" := by
  obtain ⟨-, hsplit, -⟩ := split_by_names ".//a/./../b//./"
  obtain ⟨parent, name, hok, hnames, -⟩ := hsplit (by decide)
  have hall : Path.names ".//a/./../b//./" = ["a", ".."] ++ ["b"] := by decide
  rw [hall] at hnames
  obtain ⟨hparent, hname⟩ := List.append_inj' hnames rfl
  exact ⟨parent, name, hok, hparent.symm, (List.singleton_inj.mp hname).symm⟩

end Output

end Overloads
