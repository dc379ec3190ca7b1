import Overloads.CommandLine

/-!
# Words of a command line

A word of a command line is told apart from others by its bytes. Switches and options are named in
one way each (`word_eq_switch_iff`, `word_eq_option_iff`), and a plain word is no more than a dash
or begins with something else (`word_eq_plain_iff`).
-/

namespace Overloads

namespace Text

def octets (s : String) : List UInt8 := (bytes s).data.toList

theorem octets_eq (s : String) : octets s = s.toList.flatMap String.utf8EncodeChar := by
  have hbytes : s.toByteArray = s.toList.utf8Encode := by
    rw [← String.toByteArray_ofList, String.ofList_toList]
  simp [octets, bytes, hbytes, List.utf8Encode]

theorem octets_append (s t : String) : octets (s ++ t) = octets s ++ octets t := by
  simp [octets, bytes]

theorem eq_bytes_iff {b : ByteArray} {s : String} : b = bytes s ↔ b.data.toList = octets s := by
  constructor
  · rintro rfl
    rfl
  · intro h
    exact ByteArray.ext (Array.toList_inj.mp h)

theorem ofNat_ne_dash {n : Nat} (h : 192 ≤ n) (hn : n < 256) : UInt8.ofNat n ≠ 45 := by
  intro heq
  have hnat := congrArg UInt8.toNat heq
  rw [UInt8.toNat_ofNat_of_lt' hn] at hnat
  have hdash : (45 : UInt8).toNat = 45 := rfl
  omega

/-- The first byte of a character is a dash only where the character is one. -/
theorem head?_utf8EncodeChar (c : Char) : (String.utf8EncodeChar c).head? = some 45 ↔ c = '-' := by
  constructor
  · intro h
    simp only [String.utf8EncodeChar] at h
    split at h
    · next hsmall =>
      have hnat := congrArg UInt8.toNat (Option.some.inj h)
      have hval : c.val.toNat = '-'.val.toNat := by
        rw [UInt8.toNat_ofNat_of_lt' (Nat.lt_of_le_of_lt hsmall (by decide))] at hnat
        exact hnat
      exact Char.ext (UInt32.toNat_inj.mp hval)
    · split at h
      · exact absurd (Option.some.inj h) (ofNat_ne_dash (by omega) (by omega))
      · split at h
        · exact absurd (Option.some.inj h) (ofNat_ne_dash (by omega) (by omega))
        · exact absurd (Option.some.inj h) (ofNat_ne_dash (by omega) (by omega))
  · rintro rfl
    rfl

theorem utf8EncodeChar_ne_nil (c : Char) : String.utf8EncodeChar c ≠ [] := by
  simp only [String.utf8EncodeChar]
  split
  · simp
  · split
    · simp
    · split <;> simp

end Text

namespace CommandLine

open Text (octets)

/-! ## Names and values -/

def Switch.text : Switch → String
  | .check => "check"
  | .omitPragmas => "omit-pragmas"

def Valued.text : Valued → String
  | .out => "out"
  | .logLevel => "log-level"

namespace Name

def text : Name → String
  | .help => "help"
  | .version => "version"
  | .switch s => s.text
  | .option o => o.text

def word : Name → Option ByteArray → Word
  | .option o, value => .option o value
  | .switch s, none => .switch s
  | .help, none => .help
  | .version, none => .version
  | _, some _ => .valuedSwitch

theorem text_of_mem : ∀ p ∈ names, p.1 = p.2.text := by decide

theorem find?_names : ∀ n : Name,
    names.find? (fun p => (Text.bytes p.1).data.toList = octets n.text) = some (n.text, n)
  | .help | .version | .switch .check | .switch .omitPragmas | .option .out
  | .option .logLevel => by decide +kernel

theorem equals_not_mem : ∀ n : Name, 61 ∉ octets n.text
  | .help | .version | .switch .check | .switch .omitPragmas | .option .out
  | .option .logLevel => by decide +kernel

end Name

section
variable {bs name : List UInt8}

theorem ne_equals_of_not_mem (h : 61 ∉ bs) : ∀ b ∈ bs, decide (b ≠ 61) = true := by
  intro b hb
  rw [decide_eq_true_eq]
  rintro rfl
  exact h hb

theorem splitValue_eq_none (h : 61 ∉ bs) : splitValue bs = (bs, none) := by
  have hdrop : (bs ++ []).dropWhile (· ≠ 61) = [] :=
    List.dropWhile_append_of_pos (ne_equals_of_not_mem h)
  rw [List.append_nil] at hdrop
  rw [splitValue, hdrop]

theorem splitValue_eq_some (h : 61 ∉ name) (value : ByteArray) :
    splitValue (name ++ 61 :: value.data.toList) = (name, some value) := by
  have hall := ne_equals_of_not_mem h
  rw [splitValue, List.dropWhile_append_of_pos hall, List.takeWhile_append_of_pos hall]
  simp

theorem eq_of_splitValue {value : Option ByteArray} (h : splitValue bs = (name, value)) :
    bs = name ++ value.elim [] fun v => 61 :: v.data.toList := by
  have hparts := List.takeWhile_append_dropWhile (p := fun b => decide (b ≠ 61)) (l := bs)
  rw [splitValue] at h
  split at h
  · cases h
    simp
  · next c rest hdrop =>
    cases h
    have hc := List.head?_dropWhile_not (fun b => decide (b ≠ 61)) bs
    rw [hdrop] at hc hparts
    have hc : c = 61 := by simpa using hc
    rw [hc] at hparts
    simpa using hparts.symm

theorem longWord_of_split {n : Name} {value : Option ByteArray}
    (h : splitValue bs = (octets n.text, value)) : longWord bs = n.word value := by
  simp only [longWord, h, n.find?_names]
  rcases n with _ | _ | s | o <;> cases value <;> rfl

theorem longWord_cases (bs : List UInt8) :
    longWord bs = .unknown ∨
      ∃ n value, splitValue bs = (octets n.text, value) ∧ longWord bs = Name.word n value := by
  rcases hsplit : splitValue bs with ⟨name, value⟩
  cases hfind : names.find? fun p => (Text.bytes p.1).data.toList = name with
  | none =>
    left
    simp only [longWord, hsplit, hfind]
  | some p =>
    obtain ⟨text, n⟩ := p
    right
    have htext : text = n.text := Name.text_of_mem _ (List.mem_of_find?_eq_some hfind)
    have hname : octets text = name := by
      have := List.find?_some hfind
      rwa [decide_eq_true_eq] at this
    rw [← hname, htext] at hsplit ⊢
    exact ⟨n, value, rfl, longWord_of_split hsplit⟩

theorem longWord_ne {w : Word} (hw : w = .terminator ∨ ∃ value, w = .plain value)
    (bs : List UInt8) : longWord bs ≠ w := by
  rcases longWord_cases bs with h | ⟨n, value, -, h⟩
  · rw [h]
    rcases hw with rfl | ⟨_, rfl⟩ <;> simp
  · rw [h]
    rcases n with _ | _ | s | o <;> cases value <;> rcases hw with rfl | ⟨_, rfl⟩ <;>
      simp [Name.word]

end

theorem word_cases (b : ByteArray) :
    b.data.toList = [45, 45] ∧ word b = .terminator ∨
    (∃ bs, b.data.toList = 45 :: 45 :: bs ∧ bs ≠ [] ∧ word b = longWord bs) ∨
    (b.data.toList = [45] ∨ b.data.toList.head? ≠ some 45) ∧ word b = .plain b ∨
    (∃ c bs, b.data.toList = 45 :: c :: bs) ∧
      (word b = .help ∨ word b = .version ∨ word b = .unknown) := by
  cases hbytes : b.data.toList with
  | nil => simp [word, hbytes]
  | cons first bytes =>
    by_cases hfirst : first = 45
    · subst hfirst
      match bytes with
      | [] => simp [word, hbytes]
      | [45] => simp [word, hbytes]
      | 45 :: c :: bs => simp [word, hbytes]
      | c :: bs =>
        by_cases hdash : c = 45
        · subst hdash
          cases bs <;> simp [word, hbytes]
        · refine .inr (.inr (.inr ⟨⟨c, bs, rfl⟩, ?_⟩))
          unfold word
          rw [hbytes]
          split <;> simp_all
    · simp [word, hbytes, hfirst]

/-! ## What words there are -/

section
variable {b value : ByteArray} {s : Switch} {o : Valued}

def valuePart (value : Option ByteArray) : List UInt8 :=
  value.elim [] fun v => 61 :: v.data.toList

theorem octets_ne_nil : ∀ n : Name, octets n.text ≠ []
  | .help | .version | .switch .check | .switch .omitPragmas | .option .out
  | .option .logLevel => by decide +kernel

theorem octets_dashes (n : Name) : octets ("--" ++ n.text) = 45 :: 45 :: octets n.text :=
  Text.octets_append "--" n.text

theorem word_of_name {n : Name} {value : Option ByteArray}
    (h : b.data.toList = octets ("--" ++ n.text) ++ valuePart value) : word b = n.word value := by
  have hsplit : splitValue (octets n.text ++ valuePart value) = (octets n.text, value) := by
    cases value with
    | none =>
      rw [valuePart, Option.elim_none, List.append_nil]
      exact splitValue_eq_none n.equals_not_mem
    | some v => exact splitValue_eq_some n.equals_not_mem v
  obtain ⟨c, bs, hname⟩ := List.exists_cons_of_ne_nil (octets_ne_nil n)
  rw [octets_dashes, List.cons_append, List.cons_append] at h
  rw [← longWord_of_split hsplit, hname, List.cons_append]
  rw [hname, List.cons_append] at h
  simp only [word, h]

theorem exists_name_of_word {w : Word} (h : word b = w)
    (hw : (∃ s, w = .switch s) ∨ ∃ o value, w = .option o value) :
    ∃ n value, b.data.toList = octets ("--" ++ n.text) ++ valuePart value ∧
      w = Name.word n value := by
  subst h
  rcases word_cases b with ⟨-, h⟩ | ⟨bs, hbytes, -, h⟩ | ⟨-, h⟩ | ⟨-, h | h | h⟩
  · simp [h] at hw
  · rcases longWord_cases bs with hlong | ⟨n, value, hsplit, hlong⟩
    · simp [h, hlong] at hw
    · refine ⟨n, value, ?_, by rw [h, hlong]⟩
      rw [hbytes, eq_of_splitValue hsplit, octets_dashes]
      rfl
  all_goals simp [h] at hw

theorem word_eq_switch_iff : word b = .switch s ↔ b = Text.bytes ("--" ++ s.text) := by
  rw [Text.eq_bytes_iff]
  constructor
  · intro h
    obtain ⟨n, value, hbytes, hn⟩ := exists_name_of_word h (.inl ⟨s, rfl⟩)
    rcases n with _ | _ | s' | o <;> cases value <;> cases hn
    rw [hbytes, valuePart, Option.elim_none, List.append_nil]
    rfl
  · intro h
    have hbytes : b.data.toList = octets ("--" ++ (Name.switch s).text) ++ valuePart none :=
      h.trans (List.append_nil _).symm
    exact word_of_name hbytes

theorem word_eq_option_iff {value? : Option ByteArray} :
    word b = .option o value? ↔ b.data.toList = octets ("--" ++ o.text) ++ valuePart value? := by
  constructor
  · intro h
    obtain ⟨n, value, hbytes, hn⟩ := exists_name_of_word h (.inr ⟨o, value?, rfl⟩)
    rcases n with _ | _ | s | o' <;> cases value <;> cases hn <;> exact hbytes
  · intro h
    exact word_of_name (show b.data.toList = octets ("--" ++ (Name.option o).text) ++ _ from h)

theorem word_eq_plain_iff :
    word b = .plain value ↔
      value = b ∧ (b.data.toList = [45] ∨ b.data.toList.head? ≠ some 45) := by
  constructor
  · intro h
    rcases word_cases b with ⟨-, hword⟩ | ⟨bs, -, -, hword⟩ | ⟨hstands, hword⟩ | ⟨-, hword⟩
    · cases hword.symm.trans h
    · exact absurd (hword.symm.trans h) (longWord_ne (.inr ⟨value, rfl⟩) bs)
    · cases hword.symm.trans h
      exact ⟨rfl, hstands⟩
    · rcases hword with hword | hword | hword <;> cases hword.symm.trans h
  · rintro ⟨rfl, hstands⟩
    rcases word_cases value with ⟨hbytes, -⟩ | ⟨bs, hbytes, -, -⟩ | ⟨-, hword⟩ | ⟨⟨c, bs, hbytes⟩, -⟩
    · simp [hbytes] at hstands
    · simp [hbytes] at hstands
    · exact hword
    · simp [hbytes] at hstands

theorem word_eq_terminator_iff : word b = .terminator ↔ b = Text.bytes "--" := by
  constructor
  · intro h
    rcases word_cases b with ⟨hbytes, -⟩ | ⟨bs, -, -, hword⟩ | ⟨-, hword⟩ | ⟨-, hword⟩
    · exact Text.eq_bytes_iff.mpr hbytes
    · exact absurd (hword.symm.trans h) (longWord_ne (.inl rfl) bs)
    · cases hword.symm.trans h
    · rcases hword with hword | hword | hword <;> cases hword.symm.trans h
  · rintro rfl
    rfl

end

/-! ## Texts that are values by themselves -/

def StandsAlone (text : String) : Prop := text = "-" ∨ text.toList.head? ≠ some '-'

instance (text : String) : Decidable (StandsAlone text) :=
  inferInstanceAs (Decidable (text = "-" ∨ text.toList.head? ≠ some '-'))

theorem head?_octets (text : String) :
    (octets text).head? = some 45 ↔ text.toList.head? = some '-' := by
  rw [Text.octets_eq]
  cases text.toList with
  | nil => simp
  | cons c cs =>
    obtain ⟨d, ds, hchar⟩ := List.exists_cons_of_ne_nil (Text.utf8EncodeChar_ne_nil c)
    have hc := Text.head?_utf8EncodeChar c
    rw [hchar] at hc
    simpa [hchar] using hc

theorem word_eq_plain_of_text {text : String} :
    word (Text.bytes text) = .plain (Text.bytes text) ↔ StandsAlone text := by
  have hdash : octets text = [45] ↔ text = "-" := by
    rw [← Text.bytes_inj, Text.eq_bytes_iff]
    rfl
  rw [word_eq_plain_iff]
  refine ⟨fun h => ?_, fun h => ⟨rfl, ?_⟩⟩
  · exact h.2.imp hdash.mp (mt (head?_octets text).mpr)
  · exact h.imp hdash.mpr (mt (head?_octets text).mp)

end CommandLine

end Overloads
