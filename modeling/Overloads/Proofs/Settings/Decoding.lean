import Overloads.Settings.Format

/-!
# Which fields can be read

Each field takes values of its own type, and an object is read exactly when no
field is there with a value of another type (`exists_decodeFields_iff`).
-/

namespace Overloads.Settings

inductive Field where
  | out
  | check
  | omitPragmas
  | logLevel
deriving DecidableEq, Repr

namespace Field

def name : Field → String
  | .out => "out"
  | .check => "check"
  | .omitPragmas => "omit_pragmas"
  | .logLevel => "log_level"

def takes : Field → Value → Bool
  | .out, .null | .out, .string _ | .logLevel, .string _ => true
  | .check, .bool _ | .omitPragmas, .bool _ => true
  | _, _ => false

end Field

def illTyped (fs : Fields Value) (f : Field) : Bool := (fs.get? f.name).any fun v => !f.takes v

theorem decodeFields_eq_ok_iff {fs : Fields Value} {s : Settings} :
    decodeFields fs = .ok s ↔
      orDefault decodeOptional none (fs.get? Field.out.name) = .ok s.out ∧
      orDefault decodeBool false (fs.get? Field.check.name) = .ok s.check ∧
      orDefault decodeBool false (fs.get? Field.omitPragmas.name) = .ok s.omitPragmas ∧
      orDefault decodeString "warn" (fs.get? Field.logLevel.name) = .ok s.logLevel := by
  obtain ⟨out, check, omitPragmas, logLevel⟩ := s
  simp only [decodeFields, Field.name]
  cases orDefault decodeBool false (fs.get? "check") with
  | error e => simp [bind, Except.bind]
  | ok b =>
    cases orDefault decodeString "warn" (fs.get? "log_level") with
    | error e => simp [bind, Except.bind]
    | ok level =>
      cases orDefault decodeBool false (fs.get? "omit_pragmas") with
      | error e => simp [bind, Except.bind]
      | ok b' =>
        cases orDefault decodeOptional none (fs.get? "out") with
        | error e => simp [bind, Except.bind]
        | ok path => simp [bind, Except.bind, pure, Except.pure, and_comm, and_assoc]

variable {α : Type} {f : Field} {read : Value → Except DecodeError α}

theorem exists_orDefault_iff (h : ∀ v, (∃ x, read v = .ok x) ↔ f.takes v = true) (default : α)
    (fs : Fields Value) :
    (∃ x, orDefault read default (fs.get? f.name) = .ok x) ↔ illTyped fs f = false := by
  cases hget : fs.get? f.name with
  | none => simp [orDefault, illTyped, hget]
  | some v => simp [orDefault, illTyped, hget, h]

theorem exists_decodeOptional_iff (v : Value) :
    (∃ path, decodeOptional v = .ok path) ↔ Field.out.takes v = true := by
  cases v <;> simp [decodeOptional, decodeString, Functor.map, Except.map, Field.takes]

theorem exists_decodeBool_iff (hf : f = .check ∨ f = .omitPragmas) (v : Value) :
    (∃ b, decodeBool v = .ok b) ↔ f.takes v = true := by
  rcases hf with rfl | rfl <;> cases v <;> simp [decodeBool, Field.takes]

theorem exists_decodeString_iff (v : Value) :
    (∃ s, decodeString v = .ok s) ↔ Field.logLevel.takes v = true := by
  cases v <;> simp [decodeString, Field.takes]

theorem exists_decodeFields_iff (fs : Fields Value) :
    (∃ s, decodeFields fs = .ok s) ↔ ∀ f, illTyped fs f = false := by
  have hout := exists_orDefault_iff exists_decodeOptional_iff none fs
  have hcheck := exists_orDefault_iff (exists_decodeBool_iff (.inl rfl)) false fs
  have hpragmas := exists_orDefault_iff (exists_decodeBool_iff (.inr rfl)) false fs
  have hlevel := exists_orDefault_iff exists_decodeString_iff "warn" fs
  constructor
  · rintro ⟨s, hs⟩ f
    obtain ⟨hout', hcheck', hpragmas', hlevel'⟩ := decodeFields_eq_ok_iff.mp hs
    cases f with
    | out => exact hout.mp ⟨_, hout'⟩
    | check => exact hcheck.mp ⟨_, hcheck'⟩
    | omitPragmas => exact hpragmas.mp ⟨_, hpragmas'⟩
    | logLevel => exact hlevel.mp ⟨_, hlevel'⟩
  · intro h
    obtain ⟨out, hout'⟩ := hout.mpr (h .out)
    obtain ⟨check, hcheck'⟩ := hcheck.mpr (h .check)
    obtain ⟨omitPragmas, hpragmas'⟩ := hpragmas.mpr (h .omitPragmas)
    obtain ⟨logLevel, hlevel'⟩ := hlevel.mpr (h .logLevel)
    exact ⟨⟨out, check, omitPragmas, logLevel⟩,
      decodeFields_eq_ok_iff.mpr ⟨hout', hcheck', hpragmas', hlevel'⟩⟩

end Overloads.Settings
