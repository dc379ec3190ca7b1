import Mathlib.Control.Monad.Basic
import Overloads.Log.Filter

/-!
# Patterns in filters

Whoever reads the patterns can refuse a filter, and nothing else: what is read
otherwise does not depend on it (`Filter.read_cases`). It is not even asked where
no field ends.
-/

namespace Overloads

namespace Text

theorem mem_of_mem_trim {cs : List Char} {c : Char} (h : c ∈ trim cs) : c ∈ cs := by
  simp only [trim, trimEnd, List.mem_reverse] at h
  have h := List.mem_reverse.mp ((List.dropWhile_sublist _).mem h)
  exact (List.dropWhile_sublist _).mem h

theorem mem_of_mem_pieces {α : Type} [DecidableEq α] {sep c : α} {cs p : List α}
    (hp : p ∈ pieces sep cs) (hc : c ∈ p) : c ∈ cs := by
  induction cs generalizing p with
  | nil =>
    rw [pieces, List.mem_singleton] at hp
    exact hp ▸ hc
  | cons x cs ih =>
    rw [pieces] at hp
    split at hp
    · rcases List.mem_cons.mp hp with rfl | hp
      · cases hc
      · exact List.mem_cons_of_mem x (ih hp hc)
    · cases hcs : pieces sep cs with
      | nil => exact absurd hcs (pieces_ne_nil sep cs)
      | cons q qs =>
        simp only [hcs, List.mem_cons] at hp ih
        rcases hp with rfl | hp
        · exact List.mem_cons.mpr ((List.mem_cons.mp hc).imp id fun hc => ih (.inl rfl) hc)
        · exact List.mem_cons_of_mem x (ih (.inr hp) hc)

end Text

/-- A pattern was refused, and reading ends with the reason for that. -/
def IsRefusal (patterns : PatternCheck) {α : Type} (r : Except FilterError α) : Prop :=
  ∃ value reason, Directive.isLiteral value = false ∧ patterns value = some reason ∧
    r = .error (.field reason)

theorem IsRefusal.bind {patterns : PatternCheck} {α β : Type} {r : Except FilterError α}
    (h : IsRefusal patterns r) (f : α → Except FilterError β) :
    IsRefusal patterns (r >>= f) := by
  obtain ⟨value, reason, hliteral, hrefused, rfl⟩ := h
  exact ⟨value, reason, hliteral, hrefused, rfl⟩

variable (patterns : PatternCheck)

namespace Directive

theorem readField_cases (s : String) :
    readField patterns s = readField anyPattern s ∨ IsRefusal patterns (readField patterns s) := by
  unfold readField
  split
  · next name value rest _ =>
    cases hliteral : isLiteral value with
    | true => exact .inl rfl
    | false =>
      cases hrefused : patterns value with
      | none => exact .inl rfl
      | some reason => exact .inr ⟨value, reason, hliteral, hrefused, rfl⟩
  · exact .inl rfl

/-- A field is read where it ends. -/
theorem readChar_cases (piece : String) (d : Directive) (i : Nat) (c : Char) (r : Reading) :
    readChar patterns piece d i c r = readChar anyPattern piece d i c r ∨
      c = '\x7d' ∧ IsRefusal patterns (readChar patterns piece d i c r) := by
  cases r with
  | field first =>
    by_cases hc : c = '\x7d'
    · simp only [readChar, if_pos hc]
      cases slice piece first i with
      | error e => exact .inl rfl
      | ok text =>
        by_cases htext : text = ""
        · exact .inl (by simp only [htext]; rfl)
        · simp only [bind, Except.bind, if_neg htext]
          rcases readField_cases patterns text with heq | hrefusal
          · exact .inl (by rw [heq])
          · exact .inr ⟨hc, hrefusal.bind _⟩
    · exact .inl (by simp only [readChar, if_neg hc])
  | _ => exact .inl rfl

theorem readChars_cases (piece : String) (cs : List Char) (d : Directive) (i : Nat) (r : Reading) :
    readChars patterns piece d i cs r = readChars anyPattern piece d i cs r ∨
      '\x7d' ∈ cs ∧ IsRefusal patterns (readChars patterns piece d i cs r) := by
  induction cs generalizing d i r with
  | nil => exact .inl rfl
  | cons c cs ih =>
    rw [readChars, readChars]
    rcases readChar_cases patterns piece d i c r with heq | ⟨rfl, hrefusal⟩
    · rw [heq]
      cases hchar : readChar anyPattern piece d i c r with
      | error e => exact .inl rfl
      | ok read => exact (ih read.1 _ read.2).imp id fun h => ⟨List.mem_cons_of_mem c h.1, h.2⟩
    · exact .inr ⟨List.mem_cons_self, hrefusal.bind _⟩

theorem read_cases (piece : String) :
    read patterns piece = read anyPattern piece ∨
      '\x7d' ∈ piece.toList ∧ IsRefusal patterns (read patterns piece) := by
  rcases readChars_cases patterns piece (Text.trim piece.toList) {} 0 .start with
    heq | ⟨hmem, hrefusal⟩
  · exact .inl (by rw [read, read, heq])
  · exact .inr ⟨Text.mem_of_mem_trim hmem, hrefusal.bind _⟩

theorem mapM_read_cases (pieces : List String) :
    pieces.mapM (read patterns) = pieces.mapM (read anyPattern) ∨
      (∃ piece ∈ pieces, '\x7d' ∈ piece.toList) ∧
        IsRefusal patterns (pieces.mapM (read patterns)) := by
  induction pieces with
  | nil => exact .inl rfl
  | cons piece pieces ih =>
    rw [List.mapM_cons, List.mapM_cons]
    rcases read_cases patterns piece with heq | ⟨hmem, hrefusal⟩
    · rw [heq]
      cases read anyPattern piece with
      | error e => exact .inl rfl
      | ok d =>
        rcases ih with heq | ⟨⟨p, hp, hmem⟩, hrefusal⟩
        · exact .inl (by rw [heq])
        · exact .inr ⟨⟨p, List.mem_cons_of_mem piece hp, hmem⟩, hrefusal.bind _⟩
    · exact .inr ⟨⟨piece, List.mem_cons_self, hmem⟩, hrefusal.bind _⟩

end Directive

namespace Filter

/-- A filter is read as if no pattern were refused, or the first piece that is bad has a field
whose pattern is refused. -/
theorem read_cases (s : String) :
    read patterns s = read anyPattern s ∨
      '\x7d' ∈ s.toList ∧ IsRefusal patterns (read patterns s) := by
  unfold read
  rcases Directive.mapM_read_cases patterns
    ((Text.cut ',' s).filter (· ≠ "")) with heq | ⟨⟨piece, hpiece, hmem⟩, hrefusal⟩
  · exact .inl (by rw [heq])
  · refine .inr ⟨?_, hrefusal.bind _⟩
    obtain ⟨p, hp, rfl⟩ := List.mem_map.mp (List.mem_filter.mp hpiece).1
    rw [String.toList_ofList] at hmem
    exact Text.mem_of_mem_pieces hp hmem

theorem read_eq_of_no_field {s : String} (h : '\x7d' ∉ s.toList) :
    read patterns s = read anyPattern s :=
  (read_cases patterns s).resolve_right fun hrefused => h hrefused.1

theorem read_warn :
    read patterns "warn" = .ok (.ofDirectives [{ threshold := some .warn }]) := by
  rw [read_eq_of_no_field patterns (by decide)]
  decide +kernel

end Filter

end Overloads
