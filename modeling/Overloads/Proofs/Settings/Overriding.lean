import Mathlib.Control.Monad.Basic
import Overloads.Proofs.Settings.Decoding
import Overloads.Proofs.Settings.Layering

/-!
# What a command line overrides

A command line goes over whatever the other layers give (`load_overrides`): it
replaces the fields it supplies and leaves the others alone. It can make up for
fields that are ill-typed beneath it, but not for files that cannot be read.
-/

namespace Overloads

open Settings (Field)

namespace CommandLine

/-- The field is given a value, or it is a switch that is on. -/
def supplies (c : CommandLine) : Field → Bool
  | .out => c.out.isSome
  | .check => c.check
  | .omitPragmas => c.omitPragmas
  | .logLevel => c.logLevel.isSome

def given? (c : CommandLine) : Field → Option Value
  | .out => c.out.map .string
  | .check => if c.check then some (.bool true) else none
  | .omitPragmas => if c.omitPragmas then some (.bool true) else none
  | .logLevel => c.logLevel.map .string

variable {c : CommandLine} {f : Field} {fs : Fields Value}

theorem isSome_given? (c : CommandLine) (f : Field) : (c.given? f).isSome = c.supplies f := by
  cases f with
  | out | logLevel => simp [given?, supplies]
  | check => cases h : c.check <;> simp [given?, supplies, h]
  | omitPragmas => cases h : c.omitPragmas <;> simp [given?, supplies, h]

theorem takes_of_given? {v : Value} (h : c.given? f = some v) : f.takes v = true := by
  cases f with
  | out | logLevel =>
    obtain ⟨s, -, rfl⟩ := Option.map_eq_some_iff.mp h
    rfl
  | check | omitPragmas =>
    obtain ⟨-, hv⟩ := Option.ite_none_right_eq_some.mp h
    cases hv
    rfl

theorem hasFields_layer (c : CommandLine) : c.layer.HasFields := ⟨_, rfl⟩

theorem not_isObject_of_mem_layer (c : CommandLine) :
    ∀ p ∈ c.layer.value.fields, ¬ p.2.IsObject := by
  obtain ⟨out, check, omitPragmas, logLevel⟩ := c
  cases out <;> cases check <;> cases omitPragmas <;> cases logLevel <;>
    simp [layer, Value.fields, Value.IsObject]

theorem get?_layer (c : CommandLine) (f : Field) :
    Fields.get? c.layer.value.fields.reverse f.name = c.given? f := by
  obtain ⟨out, check, omitPragmas, logLevel⟩ := c
  cases out <;> cases check <;> cases omitPragmas <;> cases logLevel <;> cases f <;> rfl

theorem get?_cover (fs : Fields Value) (c : CommandLine) (f : Field) :
    (Layer.cover fs c.layer).get? f.name = (c.given? f).or (fs.get? f.name) := by
  rw [Layer.cover, Value.get?_overlayFields _ _ c.not_isObject_of_mem_layer, get?_layer]

theorem cover_default (fs : Fields Value) : Layer.cover fs ({} : CommandLine).layer = fs := by
  rw [Layer.cover]
  exact Value.overlayFields.eq_1 fs

end CommandLine

namespace Settings

variable {base : Settings} {c : CommandLine} {fs : Fields Value}

def override (base : Settings) (c : CommandLine) : Settings where
  out := c.out.or base.out
  check := c.check || base.check
  omitPragmas := c.omitPragmas || base.omitPragmas
  logLevel := c.logLevel.getD base.logLevel

theorem illTyped_cover (fs : Fields Value) (c : CommandLine) (f : Field) :
    illTyped (Layer.cover fs c.layer) f = (illTyped fs f && !c.supplies f) := by
  rw [illTyped, c.get?_cover, ← c.isSome_given?]
  cases hgiven : c.given? f with
  | none => simp [illTyped]
  | some v => simp [CommandLine.takes_of_given? hgiven]

theorem decodeBool_or {switch default b : Bool} {v? : Option Value}
    (h : orDefault decodeBool default v? = .ok b) :
    orDefault decodeBool default ((if switch then some (.bool true) else none).or v?) =
      .ok (switch || b) := by
  cases switch with
  | false => simpa using h
  | true => rfl

theorem decodeFields_cover (h : decodeFields fs = .ok base) (c : CommandLine) :
    decodeFields (Layer.cover fs c.layer) = .ok (base.override c) := by
  obtain ⟨hout, hcheck, hpragmas, hlevel⟩ := decodeFields_eq_ok_iff.mp h
  refine decodeFields_eq_ok_iff.mpr ⟨?_, ?_, ?_, ?_⟩ <;> rw [c.get?_cover]
  · cases hc : c.out with
    | none => simpa [CommandLine.given?, override, hc] using hout
    | some path => simp [CommandLine.given?, override, hc, orDefault, decodeOptional, decodeString,
        Functor.map, Except.map]
  · exact decodeBool_or hcheck
  · exact decodeBool_or hpragmas
  · cases hc : c.logLevel with
    | none => simpa [CommandLine.given?, override, hc] using hlevel
    | some s => simp [CommandLine.given?, override, hc, orDefault, decodeString]

/-! ## Loading -/

variable {t : FileTree} {here : Location} {e : Environment}

theorem finish_nil (ls : List Layer) :
    finish ls [] = (Layer.merge ls).mapError fun m => [.merge m] := by
  unfold finish
  cases Layer.merge ls <;> rfl

theorem finish_of_ne_nil (ls : List Layer) {errors : List LoadError} (h : errors ≠ []) :
    ∃ ms : List MergeError, finish ls errors = .error (errors ++ ms.map .merge) := by
  obtain ⟨first, rest, rfl⟩ := List.exists_cons_of_ne_nil h
  unfold finish
  cases Layer.merge ls with
  | ok s => exact ⟨[], by simp⟩
  | error m => exact ⟨[m], rfl⟩

theorem merge_commandLine (t : FileTree) (here : Location) (e : Environment) (c : CommandLine) :
    Layer.merge ((lowerLayers t here e).1 ++ [c.layer]) =
      (decodeFields (Layer.cover (lowerFields t here e) c.layer)).mapError .decoding := by
  have hpile := pile_lowerLayers t here e [c.layer] fun l hl => by
    obtain rfl := List.mem_singleton.mp hl
    exact c.hasFields_layer
  simp only [Layer.merge, hpile, List.foldl_cons, List.foldl_nil, bind, Except.bind, decode]
  cases decodeFields (Layer.cover (lowerFields t here e) c.layer) <;> rfl

theorem load_of_no_errors (h : (lowerLayers t here e).2 = []) (c : CommandLine) :
    load t here e c = (decodeFields (Layer.cover (lowerFields t here e) c.layer)).mapError
      fun error => [.merge (.decoding error)] := by
  simp only [load, h, finish_nil, merge_commandLine]
  cases decodeFields (Layer.cover (lowerFields t here e) c.layer) <;> rfl

theorem load_of_errors (h : (lowerLayers t here e).2 ≠ []) (c : CommandLine) :
    ∃ es, load t here e c = .error es ∧
      es.filter LoadError.isOfFiles = (lowerLayers t here e).2 := by
  obtain ⟨ms, hms⟩ := finish_of_ne_nil ((lowerLayers t here e).1 ++ [c.layer]) h
  have hfiles : (lowerLayers t here e).2.filter LoadError.isOfFiles = (lowerLayers t here e).2 :=
    List.filter_eq_self.mpr (isOfFiles_lowerLayers t here e)
  have hmerging : (ms.map LoadError.merge).filter LoadError.isOfFiles = [] := by
    simp [LoadError.isOfFiles]
  exact ⟨_, hms, by rw [List.filter_append, hfiles, hmerging, List.append_nil]⟩

theorem exists_load_iff (h : (lowerLayers t here e).2 = []) (c : CommandLine) :
    (∃ s, load t here e c = .ok s) ↔
      ∀ f, illTyped (lowerFields t here e) f = true → c.supplies f = true := by
  have hdecode : (∃ s, load t here e c = .ok s) ↔
      ∃ s, decodeFields (Layer.cover (lowerFields t here e) c.layer) = .ok s := by
    rw [load_of_no_errors h]
    cases decodeFields (Layer.cover (lowerFields t here e) c.layer) <;> simp [Except.mapError]
  rw [hdecode, exists_decodeFields_iff]
  refine forall_congr' fun f => ?_
  rw [illTyped_cover]
  cases illTyped (lowerFields t here e) f <;> cases c.supplies f <;> simp

theorem exists_merge_error_iff (h : (lowerLayers t here e).2 = []) :
    (∃ m, load t here e {} = .error [.merge m]) ↔
      ∃ f, illTyped (lowerFields t here e) f = true := by
  have hok := exists_decodeFields_iff (lowerFields t here e)
  rw [load_of_no_errors h, CommandLine.cover_default]
  cases hdecode : decodeFields (lowerFields t here e) with
  | ok s =>
    have hnone := hok.mp ⟨s, hdecode⟩
    simp [Except.mapError, hnone]
  | error error =>
    rw [hdecode] at hok
    simpa [Except.mapError] using hok

/-- Where the lower layers can be merged, a command line overrides what they give. Errors of files
stay, whatever it says. Without such errors it has to supply every field that is ill-typed. -/
theorem load_overrides (t : FileTree) (here : Location) (e : Environment) :
    let lower := lowerLayers t here e
    (∀ base, load t here e {} = .ok base → ∀ c, load t here e c = .ok (base.override c)) ∧
    (lower.2 ≠ [] → ∀ c, ∃ es, load t here e c = .error es ∧
      es.filter LoadError.isOfFiles = lower.2) ∧
    (lower.2 = [] → ∃ fs, Layer.pile .null lower.1 = .ok (.object fs) ∧
      ((∃ m, load t here e {} = .error [.merge m]) ↔ ∃ f, illTyped fs f = true) ∧
      ∀ c, (∃ s, load t here e c = .ok s) ↔ ∀ f, illTyped fs f = true → c.supplies f = true) := by
  intro lower
  refine ⟨?_, load_of_errors, fun h => ⟨lowerFields t here e, ?_, ?_, exists_load_iff h⟩⟩
  · intro base hbase c
    by_cases h : lower.2 = []
    · rw [load_of_no_errors h, CommandLine.cover_default] at hbase
      rw [load_of_no_errors h]
      cases hdecode : decodeFields (lowerFields t here e) with
      | ok s =>
        rw [hdecode] at hbase
        cases hbase
        rw [decodeFields_cover hdecode]
        rfl
      | error error =>
        rw [hdecode] at hbase
        cases hbase
    · obtain ⟨es, hes, -⟩ := load_of_errors h {}
      rw [hbase] at hes
      cases hes
  · have hpile := pile_lowerLayers t here e [] (by simp)
    rwa [List.append_nil] at hpile
  · exact exists_merge_error_iff h

def withJsonFile : FileTree := FileTree.empty.put ["c.json"] (.file (Text.bytes "\x7b\x7d"))

def pragmasOmitted : Environment := [("MEMGEN_OMIT_PRAGMAS", "true")]

def jsonPlace : Environment := [("MEMGEN_CONFIG_PATH", "/c.json")]

def listedCheck : Environment := [("MEMGEN_CHECK", "true,false")]

/-- A switch stays on that a variable turns on; a file that is not read is reported in any case; and
a list of truth values does no harm where the command line turns the switch on. -/
theorem load_overrides_variables :
    load .empty [] pragmasOmitted { out := some "" } = .ok { out := some "", omitPragmas := true } ∧
      (∃ es, load withJsonFile [] jsonPlace { check := true } = .error es ∧
        (es.filter LoadError.isOfFiles).length = 1) ∧
      (∃ m, load .empty [] listedCheck {} = .error [.merge m]) ∧
      ¬ (∃ s, load .empty [] listedCheck { out := some "h" } = .ok s) ∧
      ∃ s, load .empty [] listedCheck { check := true } = .ok s := by
  refine ⟨?_, ?_, ?_⟩
  · have hsome : (load .empty [] pragmasOmitted {}).toOption = some { omitPragmas := true } := by
      decide +kernel
    have hbase : load .empty [] pragmasOmitted {} = .ok { omitPragmas := true } := by
      cases hload : load .empty [] pragmasOmitted {} <;> rw [hload] at hsome <;> cases hsome
      rfl
    exact (load_overrides .empty [] pragmasOmitted).1 _ hbase _
  · have hlength : (lowerLayers withJsonFile [] jsonPlace).2.length = 1 := by decide +kernel
    have hne : (lowerLayers withJsonFile [] jsonPlace).2 ≠ [] :=
      List.ne_nil_of_length_pos (by rw [hlength]; exact Nat.one_pos)
    obtain ⟨es, hes, hfiles⟩ :=
      (load_overrides withJsonFile [] jsonPlace).2.1 hne { check := true }
    exact ⟨es, hes, by rw [hfiles, hlength]⟩
  · obtain ⟨fs, hpile, herror, hload⟩ := (load_overrides .empty [] listedCheck).2.2 rfl
    have hlower := pile_lowerLayers .empty [] listedCheck [] (by simp)
    rw [List.append_nil, hpile] at hlower
    cases hlower
    have hcheck : illTyped (lowerFields .empty [] listedCheck) .check = true := by decide +kernel
    refine ⟨herror.mpr ⟨.check, hcheck⟩, ?_, ?_⟩
    · intro h
      exact absurd ((hload _).mp h .check hcheck) (by decide)
    · refine (hload _).mpr fun f hf => ?_
      cases f with
      | check => rfl
      | out | omitPragmas | logLevel => exact absurd hf (by decide +kernel)

end Settings

end Overloads
