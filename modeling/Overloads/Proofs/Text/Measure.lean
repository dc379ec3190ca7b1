import Mathlib.Algebra.GroupWithZero.Nat
import Mathlib.Data.List.Infix
import Overloads.Proofs.Text.Excerpt

/-!
# Measures of a text

How many bytes a text has adds up over its parts, and so does how often it holds
a character. How often it holds a word need not, since the word can lie across a
cut; it does around a character that the word has not. What `AddsUp` at marks
and behind a blank therefore adds up over the items of a listing
(`AddsUp.listing`).
-/

namespace Overloads.Text

/-! ## How often a text holds a word -/

def frequency (word s : List Char) : Nat := s.tails.countP word.isPrefixOf

section
variable {word : List Char} {c d : Char}

theorem frequency_cons (word : List Char) (c : Char) (s : List Char) :
    frequency word (c :: s) = frequency word s + if word.isPrefixOf (c :: s) then 1 else 0 := by
  rw [frequency, List.tails_cons, List.countP_cons]
  rfl

/-- A word does not reach across a character that it has not. -/
theorem isPrefixOf_append_cons (h : d ∉ word) (s t : List Char) :
    word.isPrefixOf (s ++ d :: t) = word.isPrefixOf s := by
  rw [Bool.eq_iff_iff, List.isPrefixOf_iff_prefix, List.isPrefixOf_iff_prefix]
  constructor
  · intro hword
    have hfront : s ++ [d] <+: s ++ d :: t := ⟨t, by simp⟩
    -- a word that reaches further than `s` and `d` would hold `d`
    rcases List.prefix_or_prefix_of_prefix hword hfront with hw | hw
    · rcases List.prefix_concat_iff.mp hw with rfl | hw
      · exact absurd (by simp) h
      · exact hw
    · exact absurd (hw.subset (by simp)) h
  · intro hword
    exact hword.trans (List.prefix_append s _)

theorem frequency_append_cons (h : d ∉ word) (t : List Char) : ∀ s : List Char,
    frequency word (s ++ d :: t) = frequency word s + frequency word t
  | [] => by
    have hempty : frequency word [] = if word.isPrefixOf [] then 1 else 0 := by
      simp [frequency]
    have hfront := isPrefixOf_append_cons h [] t
    rw [List.nil_append] at hfront ⊢
    rw [frequency_cons, hfront, hempty, Nat.add_comm]
  | c :: s => by
    have hfront := isPrefixOf_append_cons h (c :: s) t
    rw [List.cons_append] at hfront ⊢
    rw [frequency_cons, hfront, frequency_append_cons h t s, frequency_cons]
    omega

theorem frequency_cons_of_ne (h : c ≠ d) (word s : List Char) :
    frequency (c :: word) (d :: s) = frequency (c :: word) s := by
  rw [frequency_cons, List.isPrefixOf_cons_cons, beq_eq_false_iff_ne.mpr h]
  simp

theorem frequency_of_not_mem {s : List Char} (h : c ∉ s) (word : List Char) :
    frequency (c :: word) s = 0 := by
  apply List.countP_eq_zero.mpr
  intro t ht hword
  have hc : c ∈ t := (List.isPrefixOf_iff_prefix.mp hword).subset (by simp)
  exact h (((List.mem_tails t s).mp ht).subset hc)

/-- A word at the front of a text that has its first character nowhere else occurs once. -/
theorem frequency_append_self {t : List Char} (hword : c ∉ word) (ht : c ∉ t) :
    frequency (c :: word) (c :: word ++ t) = 1 := by
  have hrest : c ∉ word ++ t := by simp [hword, ht]
  rw [List.cons_append, frequency_cons, ← List.cons_append, frequency_of_not_mem hrest,
    if_pos (List.isPrefixOf_iff_prefix.mpr (List.prefix_append _ t))]

end

/-! ## Measures that add up at marks -/

def marks : List Char := ['<', '>', '(', ')', ',']

/-- A measure that adds up around every mark, and behind a blank in front. -/
structure AddsUp (μ : List Char → Nat) : Prop where
  mark : ∀ d ∈ marks, ∀ s t, μ (s ++ d :: t) = μ s + μ [d] + μ t
  blank : ∀ t, μ (' ' :: t) = μ [' '] + μ t

def byteLength (s : List Char) : Nat := (String.ofList s).utf8ByteSize

theorem byteLength_toList (s : String) : byteLength s.toList = s.utf8ByteSize := by
  rw [byteLength, String.ofList_toList]

theorem addsUp_of_append {μ : List Char → Nat} (h : ∀ s t, μ (s ++ t) = μ s + μ t) : AddsUp μ where
  mark d _ s t := by
    have hcut : s ++ d :: t = s ++ [d] ++ t := by simp
    rw [hcut, h, h]
  blank t := h [' '] t

theorem addsUp_byteLength : AddsUp byteLength :=
  addsUp_of_append fun s t => by
    rw [byteLength, String.ofList_append, String.utf8ByteSize_append]
    rfl

theorem addsUp_count (c : Char) : AddsUp (List.count c) :=
  addsUp_of_append fun _ _ => List.count_append

theorem addsUp_frequency {c : Char} {word : List Char} (hmarks : ∀ d ∈ marks, d ∉ c :: word)
    (hblank : c ≠ ' ') : AddsUp (frequency (c :: word)) where
  mark d hd s t := by
    have hsingle : frequency (c :: word) [d] = 0 := by
      apply frequency_of_not_mem
      intro hc
      exact hmarks d hd (by simp [List.mem_singleton.mp hc])
    rw [frequency_append_cons (hmarks d hd), hsingle, Nat.add_zero]
  blank t := by
    have hsingle : frequency (c :: word) [' '] = 0 :=
      frequency_of_not_mem (by simpa using hblank) word
    rw [frequency_cons_of_ne hblank, hsingle, Nat.zero_add]

namespace AddsUp
variable {μ : List Char → Nat} (h : AddsUp μ)

include h in
theorem nil : μ [] = 0 := by
  have hmark := h.mark ',' (by decide) [] []
  rw [List.nil_append] at hmark
  omega

include h in
/-- A listing measures what its items do and the separators between them. -/
theorem listing : ∀ xs : List String, μ (listing xs).toList =
    (xs.map fun x => μ x.toList).sum + (xs.length - 1) * (μ [','] + μ [' '])
  | [] => by simp [Text.listing, h.nil]
  | [x] => by simp [Text.listing]
  | x :: y :: xs => by
    have hlength : (x :: y :: xs).length - 1 = (y :: xs).length - 1 + 1 := rfl
    rw [toList_listing_cons_cons, h.mark ',' (by decide), h.blank, listing (y :: xs), hlength,
      Nat.add_mul, Nat.one_mul, List.map_cons (l := y :: xs), List.sum_cons]
    omega

end AddsUp

theorem utf8ByteSize_unlines (lines : List String) :
    (unlines lines).utf8ByteSize = (lines.map fun x => x.utf8ByteSize + 1).sum := by
  induction lines with
  | nil => rfl
  | cons x lines ih =>
    have hcons : unlines (x :: lines) = x ++ "\n" ++ unlines lines := by simp [unlines]
    have hfeed : "\n".utf8ByteSize = 1 := by decide
    rw [hcons, String.utf8ByteSize_append, String.utf8ByteSize_append, hfeed, ih, List.map_cons,
      List.sum_cons]

end Overloads.Text
