import Overloads.Proofs.Text.Excerpt
import Overloads.Proofs.Text.Identifier

/-!
# Tokens of a text

A text is read as words, the longest runs of letters, digits and underscores, and as
single marks between them. Reading two texts in a row is reading both as long as
no word goes over the seam (`tokens_append_right`, `tokens_append_left`).
-/

namespace Overloads

inductive Token where
  /-- Where a text begins or ends. -/
  | edge
  | word (s : String)
  | mark (c : Char)
deriving DecidableEq

namespace Text

def wordToken (word : List Char) : List Token :=
  if word = [] then [] else [.word (String.ofList word)]

def markToken (c : Char) : List Token := if c.isWhitespace then [] else [.mark c]

def tokensFrom (word : List Char) : List Char → List Token
  | [] => wordToken word
  | c :: cs =>
    if inIdentifier c then tokensFrom (word ++ [c]) cs
    else wordToken word ++ markToken c ++ tokensFrom [] cs

def tokens (s : String) : List Token := tokensFrom [] s.toList

theorem tokensFrom_append_cons {c : Char} (hc : inIdentifier c = false) :
    ∀ (word xs ys : List Char), tokensFrom word (xs ++ c :: ys) =
      tokensFrom word xs ++ markToken c ++ tokensFrom [] ys
  | word, [], ys => by simp [tokensFrom, hc]
  | word, x :: xs, ys => by
    rw [List.cons_append, tokensFrom, tokensFrom]
    by_cases hx : inIdentifier x = true
    · rw [if_pos hx, if_pos hx, tokensFrom_append_cons hc]
    · rw [if_neg hx, if_neg hx, tokensFrom_append_cons hc]
      simp

theorem tokensFrom_of_word : ∀ (word s : List Char), s.all inIdentifier = true →
    tokensFrom word s = wordToken (word ++ s)
  | word, [], _ => by rw [tokensFrom, List.append_nil]
  | word, c :: s, h => by
    rw [List.all_cons, Bool.and_eq_true] at h
    rw [tokensFrom, if_pos h.1, tokensFrom_of_word _ s h.2, List.append_assoc, List.singleton_append]

theorem tokens_of_isIdentifier {s : String} (h : IsIdentifier s) : tokens s = [.word s] := by
  have hne : s.toList ≠ [] := fun he => h.1 (String.toList_eq_nil_iff.mp he)
  rw [tokens, tokensFrom_of_word [] s.toList h.2]
  simp [wordToken, hne]

/-! ## Seams -/

/-- A text that begins with a mark or a blank ends the word in front of it. -/
theorem tokens_append_right {t : String} (h : t.toList.head?.any (!inIdentifier ·) = true)
    (s : String) : tokens (s ++ t) = tokens s ++ tokens t := by
  unfold tokens
  cases ht : t.toList with
  | nil => simp [ht] at h
  | cons c cs =>
    have hc : inIdentifier c = false := by simpa [ht] using h
    have hfirst := tokensFrom_append_cons hc [] [] cs
    rw [String.toList_append, ht, tokensFrom_append_cons hc, ← List.nil_append (c :: cs), hfirst]
    simp [tokensFrom, wordToken]

theorem tokens_append_left {s : String} (h : s.toList.getLast?.any (!inIdentifier ·) = true)
    (t : String) : tokens (s ++ t) = tokens s ++ tokens t := by
  unfold tokens
  rcases List.eq_nil_or_concat s.toList with hs | ⟨cs, c, hs⟩
  · simp [hs] at h
  · rw [List.concat_eq_append] at hs
    have hc : inIdentifier c = false := by simpa [hs] using h
    rw [String.toList_append, hs, List.append_assoc, List.singleton_append,
      tokensFrom_append_cons hc, tokensFrom_append_cons hc]
    simp [tokensFrom, wordToken]

theorem tokens_around {front back : String}
    (hf : front.toList.getLast?.any (!inIdentifier ·) = true)
    (hb : back.toList.head?.any (!inIdentifier ·) = true) (s : String) :
    tokens (front ++ s ++ back) = tokens front ++ (tokens s ++ tokens back) := by
  rw [tokens_append_right hb, tokens_append_left hf, List.append_assoc]

theorem tokens_between {seam : String} (hh : seam.toList.head?.any (!inIdentifier ·) = true)
    (hl : seam.toList.getLast?.any (!inIdentifier ·) = true) (s t : String) :
    tokens (s ++ (seam ++ t)) = tokens s ++ (tokens seam ++ tokens t) := by
  have hhead : (seam ++ t).toList.head?.any (!inIdentifier ·) = true := by
    rw [String.toList_append]
    cases hs : seam.toList with
    | nil => simp [hs] at hh
    | cons c cs => simpa [hs] using hh
  rw [tokens_append_right hhead, tokens_append_left hl]

theorem tokens_unlines : ∀ lines : List String, tokens (unlines lines) = lines.flatMap tokens
  | [] => rfl
  | x :: lines => by
    have hline : unlines (x :: lines) = x ++ ("\n" ++ unlines lines) := by
      simp [unlines, String.append_assoc]
    have hfeed : tokens "\n" = [] := by decide
    rw [hline, tokens_between (by decide) (by decide), hfeed, tokens_unlines lines,
      List.flatMap_cons, List.nil_append]

theorem tokens_listing_cons_cons (x y : String) (xs : List String) :
    tokens (listing (x :: y :: xs)) = tokens x ++ .mark ',' :: tokens (listing (y :: xs)) := by
  have hlisting : listing (x :: y :: xs) = x ++ (", " ++ listing (y :: xs)) := by
    rw [← String.toList_inj, toList_listing_cons_cons]
    simp
  have hcomma : tokens ", " = [.mark ','] := by decide
  rw [hlisting, tokens_between (by decide) (by decide), hcomma]
  rfl

end Text

end Overloads
