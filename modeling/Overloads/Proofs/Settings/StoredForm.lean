import Overloads.Proofs.Settings.Decoding
import Overloads.Proofs.Settings.Layering

/-!
# Both stored forms

A stored object gives the settings whose fields are stored as it says, and as by default where it
says nothing (`decodeFields_eq_ok_iff_stored`). So nothing is lost by leaving out what equals its
default, an array is read like the object that has its values under the names of the fields, and
other names do not count (`stored_forms_agree`).
-/

namespace Overloads.Settings

namespace Field

def all : List Field := [.out, .check, .omitPragmas, .logLevel]

def position : Field → Nat
  | .out => 0
  | .check => 1
  | .omitPragmas => 2
  | .logLevel => 3

def isKnown (name : String) : Bool := name ∈ all.map Field.name

theorem isKnown_name (f : Field) : isKnown f.name = true := by cases f <;> decide

theorem forall_iff {P : Field → Prop} :
    (∀ f, P f) ↔ P .out ∧ P .check ∧ P .omitPragmas ∧ P .logLevel := by
  constructor
  · intro h
    exact ⟨h .out, h .check, h .omitPragmas, h .logLevel⟩
  · intro ⟨hout, hcheck, hpragmas, hlevel⟩ f
    cases f with
    | out => exact hout
    | check => exact hcheck
    | omitPragmas => exact hpragmas
    | logLevel => exact hlevel

end Field

def stored (s : Settings) : Field → Value
  | .out => match s.out with | some path => .string path | none => .null
  | .check => .bool s.check
  | .omitPragmas => .bool s.omitPragmas
  | .logLevel => .string s.logLevel

def omits (s : Settings) : Field → Bool
  | .out => s.out.isNone
  | .check => !s.check
  | .omitPragmas => !s.omitPragmas
  | .logLevel => false

/-- The value that a field has in an object, if only by default. -/
def valueIn (fs : Fields Value) (f : Field) : Value := (fs.get? f.name).getD (stored {} f)

variable {s : Settings} {fs gs : Fields Value}

/-! ## Objects -/

section
variable (v? : Option Value)

theorem orDefault_decodeOptional :
    orDefault decodeOptional none v? = decodeOptional (v?.getD (stored {} .out)) := by
  cases v? <;> rfl

theorem orDefault_decodeBool :
    orDefault decodeBool false v? = decodeBool (v?.getD (.bool false)) := by
  cases v? <;> rfl

theorem orDefault_decodeString :
    orDefault decodeString "warn" v? = decodeString (v?.getD (.string "warn")) := by
  cases v? <;> rfl

end

theorem decodeOptional_eq_ok_iff {v : Value} :
    decodeOptional v = .ok s.out ↔ v = s.stored .out := by
  cases v <;> cases h : s.out <;>
    simp [decodeOptional, decodeString, Functor.map, Except.map, stored, h]

theorem decodeBool_eq_ok_iff {v : Value} {b : Bool} : decodeBool v = .ok b ↔ v = .bool b := by
  cases v <;> simp [decodeBool]

theorem decodeString_eq_ok_iff {v : Value} {level : String} :
    decodeString v = .ok level ↔ v = .string level := by
  cases v <;> simp [decodeString]

theorem decodeFields_eq_ok_iff_stored :
    decodeFields fs = .ok s ↔ ∀ f, valueIn fs f = s.stored f := by
  rw [decodeFields_eq_ok_iff, orDefault_decodeOptional, orDefault_decodeBool,
    orDefault_decodeBool, orDefault_decodeString, decodeOptional_eq_ok_iff, decodeBool_eq_ok_iff,
    decodeBool_eq_ok_iff, decodeString_eq_ok_iff, Field.forall_iff]
  rfl

theorem decodeFields_eq (fs : Fields Value) :
    decodeFields fs = (do
      let check ← decodeBool (valueIn fs .check)
      let logLevel ← decodeString (valueIn fs .logLevel)
      let omitPragmas ← decodeBool (valueIn fs .omitPragmas)
      let out ← decodeOptional (valueIn fs .out)
      return ⟨out, check, omitPragmas, logLevel⟩) := by
  unfold decodeFields
  rw [orDefault_decodeBool, orDefault_decodeString, orDefault_decodeBool,
    orDefault_decodeOptional]
  rfl

/-- What is read, or what is wrong, depends on nothing but the values of the fields. -/
theorem decodeFields_congr (h : ∀ f, valueIn fs f = valueIn gs f) :
    decodeFields fs = decodeFields gs := by
  rw [decodeFields_eq, decodeFields_eq, h .check, h .logLevel, h .omitPragmas, h .out]

theorem get?_filter_isKnown (f : Field) : ∀ fs : Fields Value,
    Fields.get? (fs.filter fun p => Field.isKnown p.1) f.name = Fields.get? fs f.name
  | [] => rfl
  | (k, v) :: fs => by
    have ih := get?_filter_isKnown f fs
    by_cases hk : k = f.name
    · subst hk
      simp [Field.isKnown_name, Fields.get?]
    · rw [List.filter_cons]
      split <;> simp [Fields.get?, hk, ih]

theorem decodeFields_of_known
    (h : fs.filter (fun p => Field.isKnown p.1) = gs.filter fun p => Field.isKnown p.1) :
    decodeFields fs = decodeFields gs := by
  refine decodeFields_congr fun f => ?_
  rw [valueIn, ← get?_filter_isKnown f fs, h, get?_filter_isKnown f gs, valueIn]

/-! ## What is left out -/

theorem get?_encode (s : Settings) (f : Field) :
    Fields.get? s.encode.fields f.name = if s.omits f then none else some (s.stored f) := by
  obtain ⟨out, check, omitPragmas, logLevel⟩ := s
  cases out <;> cases check <;> cases omitPragmas <;> cases f <;> rfl

theorem stored_of_omits {f : Field} (h : s.omits f = true) : s.stored f = stored {} f := by
  cases f with
  | out =>
    have hout := Option.isNone_iff_eq_none.mp h
    simp only [stored, hout]
  | check =>
    have hcheck : s.check = false := by simpa [omits] using h
    simp only [stored, hcheck]
  | omitPragmas =>
    have hpragmas : s.omitPragmas = false := by simpa [omits] using h
    simp only [stored, hpragmas]
  | logLevel => cases h

theorem decode_encode (s : Settings) : decode s.encode = .ok s := by
  have hfields : decode s.encode = decodeFields s.encode.fields := rfl
  rw [hfields, decodeFields_eq_ok_iff_stored]
  intro f
  rw [valueIn, get?_encode]
  split
  · next homits => exact (stored_of_omits homits).symm
  · rfl

/-! ## Arrays -/

theorem getElem?_all (f : Field) : Field.all[f.position]? = some f := by cases f <;> rfl

theorem get?_zip_names (items : List Value) (f : Field) :
    Fields.get? ((Field.all.map Field.name).zip items) f.name = items[f.position]? := by
  match items with
  | [] | [_] | [_, _] | [_, _, _] | _ :: _ :: _ :: _ :: _ => cases f <;> rfl

theorem decodeItems_eq_ok_iff {items : List Value} (hne : items ≠ []) (hlength : items.length ≤ 4) :
    decodeItems items = .ok s ↔
      orDefault decodeOptional none items[Field.out.position]? = .ok s.out ∧
      orDefault decodeBool false items[Field.check.position]? = .ok s.check ∧
      orDefault decodeBool false items[Field.omitPragmas.position]? = .ok s.omitPragmas ∧
      orDefault decodeString "warn" items[Field.logLevel.position]? = .ok s.logLevel := by
  obtain ⟨first, rest, rfl⟩ := List.exists_cons_of_ne_nil hne
  obtain ⟨out, check, omitPragmas, logLevel⟩ := s
  simp only [decodeItems, if_pos hlength, Field.position, List.getElem?_cons_zero,
    List.getElem?_cons_succ]
  have hfirst : orDefault decodeOptional none (some first) = decodeOptional first := rfl
  rw [hfirst]
  cases decodeOptional first with
  | error e => simp [bind, Except.bind]
  | ok path =>
    cases orDefault decodeBool false rest[0]? with
    | error e => simp [bind, Except.bind]
    | ok b =>
      cases orDefault decodeBool false rest[1]? with
      | error e => simp [bind, Except.bind]
      | ok b' =>
        cases orDefault decodeString "warn" rest[2]? with
        | error e => simp [bind, Except.bind]
        | ok level => simp [bind, Except.bind, pure, Except.pure]

theorem decode_array_iff {items : List Value} (hne : items ≠ []) (hlength : items.length ≤ 4) :
    decode (.array items) = .ok s ↔
      decode (.object ((Field.all.map Field.name).zip items)) = .ok s := by
  refine (decodeItems_eq_ok_iff hne hlength).trans ?_
  rw [decode, decodeFields_eq_ok_iff]
  simp only [get?_zip_names]

theorem decode_array_stored (s : Settings) :
    decode (.array (Field.all.map s.stored)) = .ok s := by
  rw [decode_array_iff (by simp [Field.all]) (by simp [Field.all]), decode,
    decodeFields_eq_ok_iff_stored]
  intro f
  rw [valueIn, get?_zip_names, List.getElem?_map, getElem?_all]
  rfl

/-- Settings are read from both stored forms of them, an array and the object with its values give
the same settings, and fields of other names change nothing, wherever they stand. -/
theorem stored_forms_agree (s : Settings) :
    decode s.encode = .ok s ∧
    (∀ f : Field, Fields.get? s.encode.fields f.name =
      if s.omits f then none else some (s.stored f)) ∧
    decode (.array (Field.all.map s.stored)) = .ok s ∧
    (∀ items, items ≠ [] → items.length ≤ 4 → ∀ other,
      (decode (.array items) = .ok other ↔
        decode (.object ((Field.all.map Field.name).zip items)) = .ok other)) ∧
    ∀ fs gs : Fields Value,
      fs.filter (fun p => Field.isKnown p.1) = gs.filter (fun p => Field.isKnown p.1) →
        decode (.object fs) = decode (.object gs) := by
  refine ⟨decode_encode s, get?_encode s, decode_array_stored s, ?_, ?_⟩
  · intro items hne hlength other
    exact decode_array_iff hne hlength
  · intro fs gs h
    exact decodeFields_of_known h

/-- An array that ends early, and an object with a field more. -/
theorem stored_forms_agree_partial :
    decode (.array [.null, .bool true]) = .ok { check := true } ∧
      decode (.object [("out", .null), ("check", .bool true)]) = .ok { check := true } ∧
      decode (.object [("out", .null), ("extends", .integer 1), ("check", .bool true)]) =
        .ok { check := true } := by
  obtain ⟨-, -, -, hforms, hothers⟩ := stored_forms_agree { check := true }
  have hobject : decode (.object [("out", .null), ("check", .bool true)]) =
      .ok { check := true } := rfl
  have hknown := hothers [("out", .null), ("extends", .integer 1), ("check", .bool true)]
    [("out", .null), ("check", .bool true)] rfl
  exact ⟨(hforms [.null, .bool true] (by simp) (by simp) _).mpr hobject, hobject,
    hknown.trans hobject⟩

end Overloads.Settings
