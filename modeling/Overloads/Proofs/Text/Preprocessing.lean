import Overloads.Text.Pieces

/-!
# Conditional lines

A preprocessor reads a text line by line. It knows which conditionals are open and
how many warning states are saved, keeps the lines that count and drops those
between an `#ifdef` of a name that is not defined and its `#endif`. Passing over
one part of a text and then over another is passing over both
(`process_append`), so a text made of balanced parts is balanced
(`process_flatMap`).
-/

namespace Overloads

namespace Text

/-- The lines of a text; what stands behind the last line feed is a line unless it is empty. -/
def linesOf (s : String) : List String :=
  if (cut '\n' s).getLast? = some "" then (cut '\n' s).dropLast else cut '\n' s

theorem linesOf_unlines {lines : List String} (h : ∀ x ∈ lines, '\n' ∉ x.toList) :
    linesOf (unlines lines) = lines := by
  unfold linesOf
  rw [cut_unlines h]
  simp

def isDirective (line : String) : Bool := line.toList.head? == some '#'

def withoutDirectives (s : String) : String :=
  unlines ((linesOf s).filter fun line => !isDirective line)

end Text

namespace Preprocessor

inductive Directive where
  | opens (name : String)
  | closes
  | saves
  | restores
  /-- A pragma that leaves the warning states alone. -/
  | pragma
  | unknown
deriving DecidableEq

def directive : List String → Directive
  | ["ifdef", name] => .opens name
  | ["endif"] => .closes
  | ["pragma", "warning(push)"] => .saves
  | ["pragma", "warning(pop)"] => .restores
  | "pragma" :: _ => .pragma
  | _ => .unknown

/-- A line whose first character other than a blank is `#` is a directive. -/
def directive? (line : String) : Option Directive :=
  match line.toList.dropWhile (· == ' ') with
  | '#' :: cs => some (directive ((Text.cut ' ' (String.ofList cs)).filter (· ≠ "")))
  | _ => none

structure State where
  /-- For each open conditional whether its name is defined, the innermost first. -/
  conditions : List Bool
  /-- How many warning states are saved and not restored. -/
  saved : Nat
deriving DecidableEq

def start : State := ⟨[], 0⟩

/-- What is kept of a line, and the state behind it. A conditional that was not opened cannot be
closed, and a state that was not saved cannot be restored. -/
def step (defined : String → Bool) (s : State) (line : String) : Option (List String × State) :=
  match directive? line with
  | some (.opens name) => some ([], { s with conditions := defined name :: s.conditions })
  | some .closes => match s.conditions with
    | [] => none
    | _ :: outer => some ([], { s with conditions := outer })
  | other =>
    if s.conditions.all id then match other with
      | some .saves => some ([line], { s with saved := s.saved + 1 })
      | some .restores => if s.saved = 0 then none else some ([line], { s with saved := s.saved - 1 })
      | some .unknown => none
      | _ => some ([line], s)
    else some ([], s)

def process (defined : String → Bool) : State → List String → Option (List String × State)
  | s, [] => some ([], s)
  | s, line :: lines =>
    (step defined s line).bind fun (kept, s) =>
      (process defined s lines).map fun (rest, s) => (kept ++ rest, s)

def preprocess (defined : String → Bool) (text : String) : Option String :=
  match process defined start (Text.linesOf text) with
  | some (kept, ⟨[], _⟩) => some (Text.unlines kept)
  | _ => none

def stateAfter (defined : String → Bool) (lines : List String) : Option State :=
  (process defined start lines).map Prod.snd

section
variable {defined : String → Bool} {s : State}

theorem process_append : ∀ {xs ys kept rest : List String} {s s' s'' : State},
    process defined s xs = some (kept, s') → process defined s' ys = some (rest, s'') →
      process defined s (xs ++ ys) = some (kept ++ rest, s'')
  | [], ys, kept, rest, s, s', s'', hx, hy => by
    simp only [process, Option.some.injEq, Prod.mk.injEq] at hx
    obtain ⟨rfl, rfl⟩ := hx
    exact hy
  | x :: xs, ys, kept, rest, s, s', s'', hx, hy => by
    simp only [process, Option.bind_eq_some_iff, Option.map_eq_some_iff] at hx
    obtain ⟨⟨first, t⟩, hstep, ⟨tail, t'⟩, htail, heq⟩ := hx
    obtain ⟨rfl, rfl⟩ := Prod.mk.inj heq
    have hrest := process_append htail hy
    simp [process, hstep, hrest]

/-- Parts that leave the state as it is leave it so together. -/
theorem process_flatMap {α : Type} {f g : α → List String} : ∀ {xs : List α},
    (∀ x ∈ xs, process defined s (f x) = some (g x, s)) →
      process defined s (xs.flatMap f) = some (xs.flatMap g, s)
  | [], _ => rfl
  | x :: xs, h => by
    rw [List.flatMap_cons, List.flatMap_cons]
    exact process_append (h x (by simp)) (process_flatMap fun y hy => h y (by simp [hy]))

theorem directive?_of_head {line : String} {c : Char} {cs : List Char}
    (h : line.toList.dropWhile (· == ' ') = c :: cs) (hc : c ≠ '#') : directive? line = none := by
  unfold directive?
  rw [h]
  split
  · next heq => exact absurd (List.cons.inj heq).1 hc
  · rfl

theorem directive?_append {s : String}
    (h : (s.toList.dropWhile (· == ' ')).head?.any (· ≠ '#') = true) (t : String) :
    directive? (s ++ t) = none := by
  cases hs : s.toList.dropWhile (· == ' ') with
  | nil => simp [hs] at h
  | cons c cs =>
    have hc : c ≠ '#' := by simpa [hs] using h
    have happend : (s ++ t).toList.dropWhile (· == ' ') = c :: (cs ++ t.toList) := by
      rw [String.toList_append, List.dropWhile_append, hs]
      simp
    exact directive?_of_head happend hc

theorem isDirective_of_no_directive {line : String} (h : directive? line = none) :
    Text.isDirective line = false := by
  unfold Text.isDirective
  cases hline : line.toList with
  | nil => rfl
  | cons c cs =>
    by_cases hc : c = '#'
    · simp [directive?, hline, hc] at h
    · simp [hc]

theorem step_of_no_directive {line : String} (hline : directive? line = none)
    (hs : s.conditions.all id = true) : step defined s line = some ([line], s) := by
  unfold step
  rw [hline]
  simp [hs]

theorem process_of_no_directives (hs : s.conditions.all id = true) : ∀ {lines : List String},
    (∀ x ∈ lines, directive? x = none) → process defined s lines = some (lines, s)
  | [], _ => rfl
  | x :: lines, h => by
    have hstep : step defined s x = some ([x], s) := step_of_no_directive (h x (by simp)) hs
    have hrest : process defined s lines = some (lines, s) :=
      process_of_no_directives hs fun y hy => h y (by simp [hy])
    simp [process, hstep, hrest]

end

end Preprocessor

end Overloads
