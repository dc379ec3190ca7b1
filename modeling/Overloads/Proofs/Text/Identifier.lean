/-!
# Identifiers of a text

An identifier is a longest run of letters, digits and underscores. `replace`
puts a text in the place of each identifier, all at once, and leaves what
stands between them.
-/

namespace Overloads.Text

def inIdentifier (c : Char) : Bool := c.isAlphanum || c == '_'

def IsIdentifier (s : String) : Prop := s ≠ "" ∧ s.toList.all inIdentifier = true

instance (s : String) : Decidable (IsIdentifier s) :=
  inferInstanceAs (Decidable (s ≠ "" ∧ s.toList.all inIdentifier = true))

def put (σ : String → String) (word : List Char) : List Char :=
  if word = [] then [] else (σ (String.ofList word)).toList

def replaceFrom (σ : String → String) (word : List Char) : List Char → List Char
  | [] => put σ word
  | c :: cs =>
    if inIdentifier c then replaceFrom σ (word ++ [c]) cs
    else put σ word ++ c :: replaceFrom σ [] cs

def replace (σ : String → String) (s : String) : String :=
  String.ofList (replaceFrom σ [] s.toList)

theorem put_toList (σ : String → String) {s : String} (h : s ≠ "") :
    put σ s.toList = (σ s).toList := by
  have hne : s.toList ≠ [] := fun he => h (String.toList_eq_nil_iff.mp he)
  rw [put, if_neg hne, String.ofList_toList]

theorem replaceFrom_append (σ : String → String) : ∀ (s word cs : List Char),
    s.all inIdentifier = true → replaceFrom σ word (s ++ cs) = replaceFrom σ (word ++ s) cs
  | [], word, cs, _ => by rw [List.nil_append, List.append_nil]
  | c :: s, word, cs, h => by
    rw [List.all_cons, Bool.and_eq_true] at h
    rw [List.cons_append, replaceFrom, if_pos h.1, replaceFrom_append σ s (word ++ [c]) cs h.2,
      List.append_assoc, List.singleton_append]

theorem replace_pair (σ : String → String) {s t : String} (hs : IsIdentifier s)
    (ht : IsIdentifier t) : replace σ (s ++ " " ++ t) = σ s ++ " " ++ σ t := by
  have hchars : (s ++ " " ++ t).toList = s.toList ++ ' ' :: t.toList := by simp
  have hend : replaceFrom σ [] t.toList = (σ t).toList := by
    have h := replaceFrom_append σ t.toList [] [] ht.2
    rw [List.append_nil, List.nil_append] at h
    rw [h, replaceFrom, put_toList σ ht.1]
  rw [replace, hchars, replaceFrom_append σ s.toList [] _ hs.2, List.nil_append, replaceFrom,
    if_neg (by decide), put_toList σ hs.1, hend, ← String.toList_inj]
  simp

end Overloads.Text
