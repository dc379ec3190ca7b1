import Overloads.Text.Pieces

/-!
# Reading parts of a text

A part of a text is found by the characters around it: what stands before or
behind the first or last occurrence of a character. Where there is none, the
whole text stands before the first and behind the last of them. Cutting a
listing at its separators gives the items back as long as none is empty or holds
a comma (`items_listing`).
-/

namespace Overloads.Text

/-! ## Before and behind a character -/

def before (d : Char) (s : List Char) : List Char := s.takeWhile (· != d)

def behind (d : Char) (s : List Char) : List Char := (s.dropWhile (· != d)).drop 1

def beforeLast (d : Char) (s : List Char) : List Char := (behind d s.reverse).reverse

def behindLast (d : Char) (s : List Char) : List Char := (before d s.reverse).reverse

section
variable {d : Char} {s : List Char}

theorem bne_of_not_mem (h : d ∉ s) : ∀ c ∈ s, (c != d) = true := by
  intro c hc
  rw [bne_iff_ne]
  rintro rfl
  exact h hc

theorem before_append (h : d ∉ s) (t : List Char) : before d (s ++ t) = s ++ before d t :=
  List.takeWhile_append_of_pos (bne_of_not_mem h)

theorem before_cons {c : Char} (h : c ≠ d) (t : List Char) : before d (c :: t) = c :: before d t :=
  before_append (s := [c]) (by simpa using h.symm) t

theorem before_self (d : Char) (t : List Char) : before d (d :: t) = [] := by
  simp [before]

theorem behind_append (h : d ∉ s) (t : List Char) : behind d (s ++ t) = behind d t := by
  rw [behind, List.dropWhile_append_of_pos (bne_of_not_mem h)]
  rfl

theorem behind_cons {c : Char} (h : c ≠ d) (t : List Char) : behind d (c :: t) = behind d t :=
  behind_append (s := [c]) (by simpa using h.symm) t

theorem behind_self (d : Char) (t : List Char) : behind d (d :: t) = t := by
  simp [behind]

theorem beforeLast_append (h : d ∉ s) (t : List Char) : beforeLast d (t ++ d :: s) = t := by
  have hrev : (t ++ d :: s).reverse = s.reverse ++ d :: t.reverse := by simp
  rw [beforeLast, hrev, behind_append (by simpa using h), behind_self, List.reverse_reverse]

theorem behindLast_append (h : d ∉ s) (t : List Char) : behindLast d (t ++ d :: s) = s := by
  have hrev : (t ++ d :: s).reverse = s.reverse ++ d :: t.reverse := by simp
  rw [behindLast, hrev, before_append (by simpa using h), before_self, List.append_nil,
    List.reverse_reverse]

end

/-! ## Items of a listing -/

def cutListing : List Char → List (List Char)
  | ',' :: ' ' :: cs => [] :: cutListing cs
  | c :: cs => (cutListing cs).modifyHead (c :: ·)
  | [] => [[]]

def items (s : List Char) : List String :=
  if s = [] then [] else (cutListing s).map String.ofList

theorem cutListing_cons {c : Char} (h : c ≠ ',') (cs : List Char) :
    cutListing (c :: cs) = (cutListing cs).modifyHead (c :: ·) := by
  rw [cutListing]
  rintro _ rfl
  exact absurd rfl h

theorem cutListing_item : ∀ {s : List Char}, ',' ∉ s → ∀ t : List Char,
    cutListing (s ++ ',' :: ' ' :: t) = s :: cutListing t
  | [], _, t => by rw [List.nil_append, cutListing]
  | c :: s, h, t => by
    obtain ⟨hc, hs⟩ := not_or.mp (mt List.mem_cons.mpr h)
    rw [List.cons_append, cutListing_cons (Ne.symm hc), cutListing_item hs]
    rfl

theorem cutListing_last : ∀ {s : List Char}, ',' ∉ s → cutListing s = [s]
  | [], _ => by rw [cutListing]
  | c :: s, h => by
    obtain ⟨hc, hs⟩ := not_or.mp (mt List.mem_cons.mpr h)
    rw [cutListing_cons (Ne.symm hc), cutListing_last hs]
    rfl

theorem toList_listing_cons_cons (x y : String) (xs : List String) :
    (listing (x :: y :: xs)).toList = x.toList ++ ',' :: ' ' :: (listing (y :: xs)).toList := by
  simp [listing]

theorem cutListing_listing : ∀ {xs : List String}, xs ≠ [] → (∀ x ∈ xs, ',' ∉ x.toList) →
    (cutListing (listing xs).toList).map String.ofList = xs
  | [], hne, _ => absurd rfl hne
  | [x], _, h => by
    have hx : (listing [x]).toList = x.toList := by simp [listing]
    rw [hx, cutListing_last (h x (by simp))]
    simp
  | x :: y :: xs, _, h => by
    have ih : (cutListing (listing (y :: xs)).toList).map String.ofList = y :: xs :=
      cutListing_listing (by simp) fun z hz => h z (List.mem_cons_of_mem x hz)
    rw [toList_listing_cons_cons, cutListing_item (h x (by simp)), List.map_cons, ih,
      String.ofList_toList]

theorem listing_ne_nil {x : String} {xs : List String} (hx : x ≠ "") :
    (listing (x :: xs)).toList ≠ [] := by
  have hne : x.toList ≠ [] := fun h => hx (String.toList_eq_nil_iff.mp h)
  cases xs with
  | nil => simpa [listing] using hne
  | cons y xs => rw [toList_listing_cons_cons]; simp

theorem items_listing {xs : List String} (hne : ∀ x ∈ xs, x ≠ "") (h : ∀ x ∈ xs, ',' ∉ x.toList) :
    items (listing xs).toList = xs := by
  cases xs with
  | nil => rfl
  | cons x xs =>
    rw [items, if_neg (listing_ne_nil (hne x (by simp)))]
    exact cutListing_listing (by simp) h

example : items "T, const T0&".toList = ["T", "const T0&"] := by decide

theorem mem_listing {c : Char} : ∀ {xs : List String}, c ∈ (listing xs).toList →
    c = ',' ∨ c = ' ' ∨ ∃ x ∈ xs, c ∈ x.toList
  | [], h => by simp [listing] at h
  | [x], h => by
    have hx : (listing [x]).toList = x.toList := by simp [listing]
    exact .inr (.inr ⟨x, by simp, hx ▸ h⟩)
  | x :: y :: xs, h => by
    rw [toList_listing_cons_cons] at h
    simp only [List.mem_append, List.mem_cons] at h
    rcases h with h | h | h | h
    · exact .inr (.inr ⟨x, by simp, h⟩)
    · exact .inl h
    · exact .inr (.inl h)
    · rcases mem_listing h with h | h | ⟨z, hz, h⟩
      · exact .inl h
      · exact .inr (.inl h)
      · exact .inr (.inr ⟨z, List.mem_cons_of_mem x hz, h⟩)

end Overloads.Text
