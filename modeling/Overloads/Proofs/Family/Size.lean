import Mathlib.Data.Bool.AllAny
import Overloads.Proofs.Argument.Places
import Overloads.Proofs.Argument.Weight
import Overloads.Proofs.Family.Decoding
import Overloads.Proofs.Text.Measure

/-!
# The size of an overload

What a measure says of a line comes from a frame, which depends on the arity
alone, and from the references, where each argument's type is written twice
(`measure_render`). So only constants set the lines of one arity apart, and each
makes its line 12 bytes longer (`utf8ByteSize_render`). Half of the arguments in
all lines of the arity are constants, which gives the size of these lines
together (`utf8ByteSize_lines`).
-/

namespace Overloads

/-! ## The measure of a reference -/

theorem toList_const : "const ".toList = 'c' :: "onst ".toList := by decide

theorem Binding.frequency_reference (b : Binding) (type rest : String) (htype : 'c' ∉ type.toList)
    (hrest : 'c' ∉ rest.toList) :
    Text.frequency "const ".toList (b.reference type ++ rest).toList = b.weight := by
  rw [toList_const]
  cases b with
  | mutable =>
    apply Text.frequency_of_not_mem
    simp [Binding.reference, htype, hrest]
  | constant =>
    have hchars : (Binding.constant.reference type ++ rest).toList =
        'c' :: "onst ".toList ++ (type.toList ++ '&' :: rest.toList) := by
      simp [Binding.reference]
    rw [hchars]
    exact Text.frequency_append_self (by decide) (by simp [htype, hrest])

theorem Binding.count_reference (b : Binding) (type rest : String) (htype : '&' ∉ type.toList)
    (hrest : '&' ∉ rest.toList) : (b.reference type ++ rest).toList.count '&' = 1 := by
  have ht := List.count_eq_zero_of_not_mem htype
  have hr := List.count_eq_zero_of_not_mem hrest
  cases b <;> simp [Binding.reference, List.count_append, ht, hr]

theorem Binding.utf8ByteSize_reference (b : Binding) (type : String) :
    (b.reference type).utf8ByteSize = type.utf8ByteSize + 1 + 6 * b.weight := by
  have hmark : "&".utf8ByteSize = 1 := by decide
  have hconst : "const ".utf8ByteSize = 6 := by decide
  cases b with
  | mutable => rw [Binding.reference, String.utf8ByteSize_append, hmark, Binding.weight]
  | constant =>
    rw [Binding.reference, String.utf8ByteSize_append, String.utf8ByteSize_append, hmark, hconst,
      Binding.weight]
    omega

/-! ## Characters of references -/

theorem not_mem_append_toString {s : String} {c : Char} (hs : c ∉ s.toList)
    (hc : c.isDigit = false) (n : Nat) : c ∉ (s ++ toString n).toList := by
  rw [String.toList_append, List.mem_append, not_or]
  refine ⟨hs, fun hn => ?_⟩
  rw [isDigit_of_mem_toString hn] at hc
  cases hc

/-- The characters that stand nowhere in a line but in references. -/
def onlyInReferences : List Char := ['&', 'c']

section
variable {c : Char} (hc : c ∈ onlyInReferences)
include hc

theorem not_mem_argumentType (i : Nat) : c ∉ (argumentType i).toList := by
  have hfixed : ∀ c ∈ onlyInReferences, c ∉ "T".toList ∧ c.isDigit = false :=
    List.all_iff_forall_prop.mp (by decide)
  exact not_mem_append_toString (hfixed c hc).1 (hfixed c hc).2 i

theorem not_mem_argumentName (i : Nat) : c ∉ (argumentName i).toList := by
  have hfixed : ∀ c ∈ onlyInReferences, c ∉ "t".toList ∧ c.isDigit = false :=
    List.all_iff_forall_prop.mp (by decide)
  exact not_mem_append_toString (hfixed c hc).1 (hfixed c hc).2 i

theorem not_mem_blank_argumentName (i : Nat) : c ∉ (" " ++ argumentName i).toList := by
  have hblank : ∀ c ∈ onlyInReferences, c ∉ " ".toList := List.all_iff_forall_prop.mp (by decide)
  rw [String.toList_append, List.mem_append, not_or]
  exact ⟨hblank c hc, not_mem_argumentName hc i⟩

theorem not_mem_listing_of_items {xs : List String} (h : ∀ x ∈ xs, c ∉ x.toList) :
    c ∉ (Text.listing xs).toList := by
  have hseparator : ∀ c ∈ onlyInReferences, c ≠ ',' ∧ c ≠ ' ' :=
    List.all_iff_forall_prop.mp (by decide)
  obtain ⟨hcomma, hblank⟩ := hseparator c hc
  intro hm
  rcases Text.mem_listing hm with hm | hm | ⟨x, hx, hm⟩
  · exact hcomma hm
  · exact hblank hm
  · exact h x hx hm

theorem not_mem_templateParameters (arity : Nat) :
    c ∉ (Text.listing (templateParameters arity)).toList := by
  have hfixed : ∀ c ∈ onlyInReferences, c ∉ "typename ".toList ∧ c ∉ constructedType.toList :=
    List.all_iff_forall_prop.mp (by decide)
  obtain ⟨hkeyword, hconstructed⟩ := hfixed c hc
  apply not_mem_listing_of_items hc
  intro x hx
  rw [templateParameters, List.mem_cons, List.mem_map] at hx
  rcases hx with rfl | ⟨i, -, rfl⟩
  · rw [typeParameter, String.toList_append, List.mem_append, not_or]
    exact ⟨hkeyword, hconstructed⟩
  · rw [typeParameter, String.toList_append, List.mem_append, not_or]
    exact ⟨hkeyword, not_mem_argumentType hc i⟩

theorem not_mem_argumentNames (arity : Nat) :
    c ∉ (Text.listing (argumentNames arity)).toList := by
  apply not_mem_listing_of_items hc
  intro x hx
  obtain ⟨i, -, rfl⟩ := List.mem_map.mp hx
  exact not_mem_argumentName hc i

end

namespace Forwarding

/-! ## The frame of a line -/

def front (arity : Nat) : List Char :=
  "template ".toList ++ '<' :: ((Text.listing (Overloads.templateParameters arity)).toList ++ '>' ::
    (" T * ".toList ++ function.toList))

def middle : List Char := " \x7breturn ".toList ++ Guarded.function.toList

def back (arity : Nat) : List Char :=
  '(' :: ((Text.listing (argumentNames arity)).toList ++ ')' :: ";\x7d".toList)

theorem toList_render_parts (f : Forwarding) :
    f.render.toList = front f.arity ++ '(' :: ((Text.listing f.parameters).toList ++ ')' ::
      (middle ++ '<' :: ((Text.listing f.explicitTypes).toList ++ '>' :: back f.arity))) := by
  unfold front middle back
  rw [toList_render]
  unfold templateParameters arguments
  simp only [List.append_assoc, List.cons_append]

/-- The measure of all that does not depend on how arguments are bound. -/
def frame (μ : List Char → Nat) (arity : Nat) : Nat :=
  μ (front arity) + μ ['('] + μ [')'] + μ middle + μ ['<'] + μ constructedType.toList + μ ['>'] +
    μ (back arity) + (arity - 1 + arity) * (μ [','] + μ [' '])

theorem measure_render {μ : List Char → Nat} (h : Text.AddsUp μ) (f : Forwarding) :
    μ f.render.toList = frame μ f.arity + ∑ i ∈ Finset.range f.arity,
      (μ (parameter (f.referenceType i) i).toList + μ (f.referenceType i).toList) := by
  have hparameters : (f.parameters.map fun x => μ x.toList).sum =
      ∑ i ∈ Finset.range f.arity, μ (parameter (f.referenceType i) i).toList := by
    rw [f.parameters_eq, List.map_map]
    rfl
  have htypes : (f.explicitTypes.map fun x => μ x.toList).sum =
      μ constructedType.toList + ∑ i ∈ Finset.range f.arity, μ (f.referenceType i).toList := by
    rw [f.explicitTypes_eq, List.map_cons, List.sum_cons, List.map_map]
    rfl
  -- the four cuts stand at brackets, and the listings are cut at their commas
  rw [toList_render_parts, h.mark '(' (by decide), h.mark ')' (by decide),
    h.mark '<' (by decide), h.mark '>' (by decide), h.listing, h.listing, hparameters, htypes,
    f.length_parameters, f.length_explicitTypes, Nat.add_sub_cancel, Finset.sum_add_distrib, frame,
    Nat.add_mul]
  omega

/-- A measure that needs a character of references does not see the frame. -/
theorem frame_eq_zero {μ : List Char → Nat} {c : Char} (hc : c ∈ onlyInReferences)
    (hμ : ∀ s, c ∉ s → μ s = 0) (arity : Nat) : frame μ arity = 0 := by
  have hsingle : ∀ d ∈ ['(', ')', '<', '>', ',', ' '], c ≠ d ∧ μ [d] = 0 := by
    have hmarks : ∀ c ∈ onlyInReferences, c ∉ ['(', ')', '<', '>', ',', ' '] :=
      List.all_iff_forall_prop.mp (by decide)
    intro d hd
    have hne : c ≠ d := fun h => hmarks c hc (h ▸ hd)
    exact ⟨hne, hμ _ fun hm => hne (List.mem_singleton.mp hm)⟩
  have hwords : ∀ c ∈ onlyInReferences, c ∉ "template ".toList ∧ c ∉ " T * ".toList ∧
      c ∉ function.toList ∧ c ∉ middle ∧ c ∉ constructedType.toList ∧ c ∉ ";\x7d".toList :=
    List.all_iff_forall_prop.mp (by decide)
  obtain ⟨htemplate, hstar, hfunction, hmiddle, htype, hend⟩ := hwords c hc
  have hfront : c ∉ front arity := by
    unfold front
    simp only [List.mem_append, List.mem_cons, not_or]
    exact ⟨htemplate, (hsingle '<' (by decide)).1, not_mem_templateParameters hc arity,
      (hsingle '>' (by decide)).1, hstar, hfunction⟩
  have hback : c ∉ back arity := by
    unfold back
    simp only [List.mem_append, List.mem_cons, not_or]
    exact ⟨(hsingle '(' (by decide)).1, not_mem_argumentNames hc arity,
      (hsingle ')' (by decide)).1, hend⟩
  rw [frame, hμ _ hfront, hμ _ hmiddle, hμ _ htype, hμ _ hback, (hsingle '(' (by decide)).2,
    (hsingle ')' (by decide)).2, (hsingle '<' (by decide)).2, (hsingle '>' (by decide)).2,
    (hsingle ',' (by decide)).2, (hsingle ' ' (by decide)).2, Nat.mul_zero]

/-- A measure that sees nothing but references sees each of them twice. -/
theorem measure_render_of_references {μ : List Char → Nat} (h : Text.AddsUp μ) {c : Char}
    (hc : c ∈ onlyInReferences) (hμ : ∀ s, c ∉ s → μ s = 0) {weight : Binding → Nat}
    (hweight : ∀ (b : Binding) (type rest : String), c ∉ type.toList → c ∉ rest.toList →
      μ (b.reference type ++ rest).toList = weight b) (f : Forwarding) :
    μ f.render.toList = 2 * ∑ i ∈ Finset.range f.arity, weight (f.constness.bindingAt i) := by
  have htype : ∀ i, μ (f.referenceType i).toList = weight (f.constness.bindingAt i) := by
    intro i
    rw [← String.append_empty (s := f.referenceType i)]
    exact hweight _ _ _ (not_mem_argumentType hc i) (by simp)
  have hparameter : ∀ i, μ (parameter (f.referenceType i) i).toList =
      weight (f.constness.bindingAt i) := by
    intro i
    rw [parameter, String.append_assoc]
    exact hweight _ _ _ (not_mem_argumentType hc i) (not_mem_blank_argumentName hc i)
  rw [measure_render h, frame_eq_zero hc hμ, Nat.zero_add, Finset.mul_sum]
  apply Finset.sum_congr rfl
  intro i _
  rw [htype, hparameter, Nat.two_mul]

/-! ## What a line holds -/

theorem frequency_render (f : Forwarding) :
    Text.frequency "const ".toList f.render.toList = 2 * f.constness.bits.toBitVec.cpop.toNat := by
  have hadds : Text.AddsUp (Text.frequency "const ".toList) := by
    rw [toList_const]
    exact Text.addsUp_frequency (List.all_iff_forall_prop.mp (by decide)) (by decide)
  have hnone : ∀ s, 'c' ∉ s → Text.frequency "const ".toList s = 0 := by
    intro s hs
    rw [toList_const, Text.frequency_of_not_mem hs]
  rw [measure_render_of_references hadds (by decide) hnone Binding.frequency_reference,
    Constness.toNat_cpop]
  rfl

theorem count_render (f : Forwarding) : f.render.toList.count '&' = 2 * f.arity := by
  have hnone : ∀ s : List Char, '&' ∉ s → s.count '&' = 0 := fun _ => List.count_eq_zero_of_not_mem
  rw [measure_render_of_references (Text.addsUp_count '&') (by decide) hnone
    Binding.count_reference]
  simp

def plainSize (arity : Nat) : Nat :=
  frame Text.byteLength arity + ∑ i ∈ Finset.range arity,
    (2 * (argumentType i).utf8ByteSize + (argumentName i).utf8ByteSize + 3)

theorem utf8ByteSize_render (f : Forwarding) :
    f.render.utf8ByteSize = plainSize f.arity + 12 * f.constness.bits.toBitVec.cpop.toNat := by
  have hboth : ∀ i ∈ Finset.range f.arity,
      Text.byteLength (parameter (f.referenceType i) i).toList +
          Text.byteLength (f.referenceType i).toList =
        (2 * (argumentType i).utf8ByteSize + (argumentName i).utf8ByteSize + 3) +
          12 * (f.constness.bindingAt i).weight := by
    intro i _
    have hblank : " ".utf8ByteSize = 1 := by decide
    rw [Text.byteLength_toList, Text.byteLength_toList, parameter, String.utf8ByteSize_append,
      String.utf8ByteSize_append, hblank, referenceType, Binding.utf8ByteSize_reference]
    omega
  rw [← Text.byteLength_toList, measure_render Text.addsUp_byteLength, Finset.sum_congr rfl hboth,
    Finset.sum_add_distrib, Constness.toNat_cpop, Finset.mul_sum, plainSize, Nat.add_assoc]
  rfl

theorem utf8ByteSize_of_bits_eq_zero {f : Forwarding} (h : f.constness.bits = 0) :
    f.render.utf8ByteSize = plainSize f.arity := by
  have hnone : f.constness.bits.toBitVec.cpop = 0#32 := by
    rw [h]
    exact BitVec.cpop_zero
  rw [utf8ByteSize_render, hnone, BitVec.toNat_zero, Nat.mul_zero, Nat.add_zero]

/-- The bytes of all lines of one arity. -/
theorem utf8ByteSize_lines {arity : Nat} (h : arity ≤ widest) :
    (Text.unlines ((Cursor.start arity h).toList.map fun c => render ⟨c⟩)).utf8ByteSize =
      2 ^ arity * (plainSize arity + 1 + 6 * arity) := by
  have hsize : ∀ c ∈ (Cursor.start arity h).toList, (render ⟨c⟩).utf8ByteSize + 1 =
      plainSize arity + 1 + 12 * c.bits.toBitVec.cpop.toNat := by
    intro c hc
    have harity : (Forwarding.mk c).arity = arity := Cursor.arity_of_mem_toList _ c hc
    rw [utf8ByteSize_render, harity, Nat.add_right_comm]
  have hconstants := Cursor.two_mul_sum_constants arity h
  rw [Text.utf8ByteSize_unlines, List.map_map, Function.comp_def, List.map_congr_left hsize,
    List.sum_map_add, List.sum_map_mul_left, List.map_const', List.sum_const_nat,
    Cursor.length_toList_start]
  generalize ((Cursor.start arity h).toList.map fun c => c.bits.toBitVec.cpop.toNat).sum =
    constants at hconstants ⊢
  calc 2 ^ arity * (plainSize arity + 1) + 12 * constants
      = 2 ^ arity * (plainSize arity + 1) + 6 * (2 * constants) := by omega
    _ = 2 ^ arity * (plainSize arity + 1) + 6 * (arity * 2 ^ arity) := by rw [hconstants]
    _ = 2 ^ arity * (plainSize arity + 1 + 6 * arity) := by
        rw [Nat.mul_add (2 ^ arity) _ (6 * arity), Nat.mul_left_comm _ 6, Nat.mul_comm arity]

/-- What each line of an arity holds beside the line without constants, how many bytes all its
lines have together, and in how many of them an argument is a constant. -/
theorem render_sizes {arity : Nat} (h : arity ≤ 31) :
    ∃ (plain : Constness) (cursor : Cursor),
      Constness.ofBits arity 0 = .ok plain ∧ Cursor.start? arity = .ok cursor ∧
      (∀ bits : UInt32, bits.toNat < 2 ^ arity → ∃ c, Constness.ofBits arity bits = .ok c ∧
        Text.frequency "const ".toList (render ⟨c⟩).toList = 2 * bits.toBitVec.cpop.toNat ∧
        (render ⟨c⟩).toList.count '&' = 2 * arity ∧
        (render ⟨c⟩).utf8ByteSize =
          (render ⟨plain⟩).utf8ByteSize + 12 * bits.toBitVec.cpop.toNat) ∧
      (∀ c ∈ cursor.toList, c.arity = arity) ∧
      cursor.toList.map (fun c => c.bits.toNat) = List.range (2 ^ arity) ∧
      (Text.unlines (cursor.toList.map fun c => render ⟨c⟩)).utf8ByteSize =
        2 ^ arity * ((render ⟨plain⟩).utf8ByteSize + 1 + 6 * arity) ∧
      ∀ i < arity,
        2 * cursor.toList.countP (fun c => c.bindingAt i = .constant) = cursor.toList.length := by
  have hwide : arity ≤ widest := h
  have hzero : (0 : UInt32).toNat < combinations arity := Nat.two_pow_pos arity
  obtain ⟨plain, hplain⟩ := Constness.exists_ofBits_iff.mpr ⟨hwide, hzero⟩
  obtain ⟨rfl, hbits⟩ := Constness.ofBits_eq_ok_iff.mp hplain
  have hsize : (render ⟨plain⟩).utf8ByteSize = plainSize plain.arity :=
    utf8ByteSize_of_bits_eq_zero hbits
  refine ⟨plain, Cursor.start plain.arity hwide, hplain, dif_pos hwide, ?_,
    Cursor.arity_of_mem_toList _, Cursor.map_bits_toList_start plain.arity hwide, ?_, ?_⟩
  · intro bits hlt
    obtain ⟨c, hc⟩ := Constness.exists_ofBits_iff.mpr ⟨hwide, hlt⟩
    obtain ⟨harity, rfl⟩ := Constness.ofBits_eq_ok_iff.mp hc
    have hcount := count_render ⟨c⟩
    have hbytes := utf8ByteSize_render ⟨c⟩
    rw [arity, harity] at hcount hbytes
    rw [hsize]
    exact ⟨c, hc, frequency_render ⟨c⟩, hcount, hbytes⟩
  · rw [utf8ByteSize_lines hwide, hsize]
  · intro i hi
    rw [Cursor.two_mul_countP_start hwide hi, Cursor.length_toList_start]

/-- Seven constants among twelve arguments, and the two megabytes of all 4096 lines. -/
theorem render_sizes_twelve : 12 ≤ 31 ∧ (0xABC : UInt32).toNat < 2 ^ 12 ∧ 11 < 12 ∧
    ∃ (c : Constness) (cursor : Cursor),
      Constness.ofBits 12 0xABC = .ok c ∧ Cursor.start? 12 = .ok cursor ∧
      Text.frequency "const ".toList (render ⟨c⟩).toList = 14 ∧
      (render ⟨c⟩).toList.count '&' = 24 ∧ (render ⟨c⟩).utf8ByteSize = 517 ∧
      (Text.unlines (cursor.toList.map fun c => render ⟨c⟩)).utf8ByteSize = 2072576 ∧
      2 * cursor.toList.countP (fun c => c.bindingAt 11 = .constant) = cursor.toList.length := by
  obtain ⟨plain, cursor, hplain, hcursor, hlines, -, -, htotal, hhalf⟩ :=
    render_sizes (show 12 ≤ 31 by decide)
  obtain ⟨c, hc, hfrequency, hcount, hsize⟩ := hlines 0xABC (by decide)
  have hweight : (0xABC : UInt32).toBitVec.cpop.toNat = 7 := by decide
  have hplainSize : (render ⟨plain⟩).utf8ByteSize = 433 := by
    have hzero : Constness.ofBits 12 0 = .ok ⟨12, 0, by decide, by decide⟩ := by decide
    obtain rfl : plain = _ := Except.ok.inj (hplain.symm.trans hzero)
    decide +kernel
  rw [hweight] at hfrequency hsize
  rw [hplainSize] at hsize htotal
  exact ⟨by decide, by decide, by decide, c, cursor, hc, hcursor, hfrequency, hcount, hsize, htotal,
    hhalf 11 (by decide)⟩

end Forwarding

end Overloads
