import Overloads.Proofs.Output.Repetition
import Overloads.Proofs.Run.Modes
import Overloads.Proofs.Settings.Footprint
import Overloads.Proofs.Settings.Overriding

/-!
# Running again

A run that succeeded can be run again, and the second time nothing changes, as long as it left alone
what its settings were loaded from (`run_again`). It need not have, since its output can be a
settings file (`output_is_settings_file`).
-/

namespace Overloads

/-- The second time, a run succeeds too, prints the same and finds the tree as it leaves it. -/
structure Outcome.Repeats (first second : Outcome) : Prop where
  result_eq : second.result = .ok ()
  printed_eq : second.printed = first.printed
  tree_eq : second.tree = first.tree

namespace Run

variable {s : Surroundings} {called : Option ByteArray} {words : List ByteArray}
  {settings : Settings} {f : Filter} {path : String}

theorem repeats_of_tree_eq (hok : (run s called words).result = .ok ())
    (htree : (run s called words).tree = s.tree) :
    (run s called words).Repeats (run (s.after (run s called words)) called words) := by
  rw [Surroundings.after_eq_self htree]
  exact ⟨hok, rfl, rfl⟩

theorem loads_after (hhere : s.tree.get? s.here = some .directory) {o : Outcome}
    (h : ∀ l, Settings.Consults s.tree s.here s.environment l → o.tree.get? l = s.tree.get? l)
    (hload : Loads s words settings) : Loads (s.after o) words settings := by
  obtain ⟨c, hread, hload⟩ := hload
  exact ⟨c, hread, (Settings.load_congr hhere h c).trans hload⟩

section
variable (hload : Loads s words settings)
  (hfilter : Filter.read s.patterns settings.logLevel = .ok f)
include hload hfilter

theorem exists_out_of_silent (hok : (run s called words).result = .ok ())
    (hsilent : (run s called words).printed = "") : ∃ path, settings.out = some path := by
  rw [run_of_loads hload hfilter] at hok hsilent
  cases hout : settings.out with
  | some path => exact ⟨path, rfl⟩
  | none =>
    cases hcheck : settings.check with
    | true => simp [serve, Settings.mode, hout, hcheck, fail] at hok
    | false =>
      have htext : (Header.generate .standard settings.pragmas).text ≠ "" :=
        Header.text_ne_empty .standard settings.pragmas
      cases hprinter : s.printer <;>
        simp [serve, Settings.mode, hout, hcheck, print, hprinter, fail, htext] at hok hsilent

theorem silent_of_out (hout : settings.out = some path) : (run s called words).printed = "" := by
  cases hcheck : settings.check with
  | false =>
    have hmode := Settings.mode_eq_write_iff.mpr ⟨hout, hcheck⟩
    exact (leaves_of_write hload hfilter hmode called).printed_eq
  | true =>
    have hmode := Settings.mode_eq_compare_iff.mpr ⟨hout, hcheck⟩
    exact (leaves_of_compare hload hfilter hmode called).printed_eq

/-- A run with an output, whether it writes or compares, succeeds and changes nothing exactly where
the output holds its text already. -/
theorem unchanged_iff (hplain : s.tree.IsPlain) (hhere : s.tree.get? s.here = some .directory)
    (hout : settings.out = some path) :
    (run s called words).result = .ok () ∧ (run s called words).tree = s.tree ↔
      Output.read s.tree s.here path = .ok (some (generatedText settings.omitPragmas)) := by
  cases hcheck : settings.check with
  | false =>
    have hmode := Settings.mode_eq_write_iff.mpr ⟨hout, hcheck⟩
    rw [← Output.write_eq_self_iff hplain hhere]
    constructor
    · rintro ⟨hok, htree⟩
      rw [write_of_result hload hfilter hmode hok, htree]
    · intro hwrite
      obtain ⟨hok, -, htree⟩ := result_of_write hload hfilter hmode hwrite called
      exact ⟨hok, htree⟩
  | true =>
    have hmode := Settings.mode_eq_compare_iff.mpr ⟨hout, hcheck⟩
    have hleaves := leaves_of_compare hload hfilter hmode called
    have htree : (run s called words).tree = s.tree := hleaves.tree_eq
    rw [hleaves.result_eq, Ending.result_compared, ← Output.check_eq_ok_iff]
    split
    · next hsame => simp [hsame, htree]
    · next g hdiffers => simp [hdiffers]

end

theorem silent_unchanged_iff (called : Option ByteArray) {c : CommandLine}
    (hread : CommandLine.read words = .ok c) (hplain : s.tree.IsPlain)
    (hhere : s.tree.get? s.here = some .directory) :
    (run s called words).result = .ok () ∧ (run s called words).printed = "" ∧
        (run s called words).tree = s.tree ↔
      ∃ settings f path, Loads s words settings ∧ Filter.read s.patterns settings.logLevel = .ok f ∧
        settings.out = some path ∧
        Output.read s.tree s.here path = .ok (some (generatedText settings.omitPragmas)) := by
  constructor
  · rintro ⟨hok, hsilent, htree⟩
    obtain ⟨settings, f, hload, hfilter⟩ := loads_of_result hread hok
    obtain ⟨path, hout⟩ := exists_out_of_silent hload hfilter hok hsilent
    have hfound := (unchanged_iff hload hfilter hplain hhere hout).mp ⟨hok, htree⟩
    exact ⟨settings, f, path, hload, hfilter, hout, hfound⟩
  · rintro ⟨settings, f, path, hload, hfilter, hout, hfound⟩
    obtain ⟨hok, htree⟩ := (unchanged_iff hload hfilter hplain hhere hout).mpr hfound
    exact ⟨hok, silent_of_out hload hfilter hout, htree⟩

/-- A run that succeeded repeats itself if it left alone what its settings were loaded from. Where
no device is about, it does so exactly if it changed nothing, or if the settings that it left name
an output that holds their text. -/
theorem run_again (s : Surroundings) (called : Option ByteArray) (words : List ByteArray)
    (hhere : s.tree.get? s.here = some .directory)
    (hok : (run s called words).result = .ok ()) :
    let first := run s called words
    let second := run (s.after first) called words
    ((∀ l, Settings.Consults s.tree s.here s.environment l →
        first.tree.get? l = s.tree.get? l) → first.Repeats second) ∧
    (s.tree.IsPlain →
      (first.Repeats second ↔ first.tree = s.tree ∨
        ∃ settings f path, Loads (s.after first) words settings ∧
          Filter.read s.patterns settings.logLevel = .ok f ∧ settings.out = some path ∧
          Output.read first.tree s.here path =
            .ok (some (generatedText settings.omitPragmas)))) := by
  intro first second
  rcases tree_eq_or_writes s called words with htree | ⟨settings, f, path, hload, hfilter, hmode⟩
  · have hrepeats := repeats_of_tree_eq hok htree
    exact ⟨fun _ => hrepeats, fun _ => ⟨fun _ => .inl htree, fun _ => hrepeats⟩⟩
  · have hwrite := write_of_result hload hfilter hmode hok
    have hsilent : first.printed = "" := (leaves_of_write hload hfilter hmode called).printed_eq
    constructor
    · intro hsame
      obtain ⟨hok', hsilent', htree'⟩ := result_of_write (loads_after hhere hsame hload) hfilter
        hmode (Output.write_again hhere hwrite) called
      exact ⟨hok', hsilent'.trans hsilent.symm, htree'⟩
    · intro hplain
      obtain ⟨hcarries, hstaysPlain⟩ := Output.carries_of_write hhere hwrite
      obtain ⟨c, hread, -⟩ := hload
      have hsecond := silent_unchanged_iff (s := s.after first) called hread
        (hstaysPlain hplain) (hcarries _ _ hhere trivial)
      constructor
      · intro h
        exact .inr (hsecond.mp ⟨h.result_eq, h.printed_eq.trans hsilent, h.tree_eq⟩)
      · rintro (htree | hfound)
        · exact repeats_of_tree_eq hok htree
        · obtain ⟨hok', hsilent', htree'⟩ := hsecond.mpr hfound
          exact ⟨hok', hsilent'.trans hsilent.symm, htree'⟩

def extendedSettings : Surroundings where
  tree := FileTree.empty
    |>.put [".memgen.toml"] (.file (Text.bytes "extends = \"base.toml\""))
    |>.put ["base.toml"] (.file (Text.bytes "out = \"h\""))
  here := []
  environment := []
  patterns := closedGroups

theorem consults_extendedSettings {l : Location}
    (h : Settings.Consults extendedSettings.tree [] [] l) :
    l = ["etc"] ∨ l = [".memgen.toml"] ∨ l = ["base.toml"] := by
  have hsearched : SettingsFile.searched extendedSettings.tree []
      (SettingsFile.places [] []).eraseDups =
        ["/etc/xdg/memgen/config.toml", "/etc/xdg/.memgen.toml", "/.memgen.toml"] := by
    decide +kernel
  have hfound : extendedSettings.tree.resolve [] .follow "/.memgen.toml" =
      .ok (.entry [".memgen.toml"] (.file (Text.bytes "extends = \"base.toml\""))) := rfl
  have htarget : SettingsFile.target? ([".memgen.toml"], Text.bytes "extends = \"base.toml\"") =
      some "/base.toml" := by decide +kernel
  have hbase : extendedSettings.tree.trace [] .follow "/base.toml" =
      .ok (.entry ["base.toml"] (.file (Text.bytes "out = \"h\""))) := rfl
  have hlast : SettingsFile.target? (["base.toml"], Text.bytes "out = \"h\"") = none := by
    decide +kernel
  have hstop : ∀ n ∈ [".memgen.toml", "base.toml"], ∀ e,
      extendedSettings.tree.get? [n] = some e → ¬ e.Passable := by
    intro n hn e he
    have hget : ∃ content, extendedSettings.tree.get? [n] = some (.file content) := by
      simp only [List.mem_cons, List.not_mem_nil, or_false] at hn
      rcases hn with rfl | rfl <;> exact ⟨_, rfl⟩
    obtain ⟨content, hget⟩ := hget
    rw [hget] at he
    cases he
    exact id
  generalize Text.bytes "extends = \"base.toml\"" = extending at hfound htarget
  generalize Text.bytes "out = \"h\"" = extended at hbase hlast
  obtain ⟨path, hpath, hl⟩ := h
  simp only [hsearched, List.mem_cons, List.not_mem_nil, or_false] at hpath
  rcases hpath with rfl | rfl | rfl
  · exact .inl (SettingsFile.eq_of_placeLooksAt rfl rfl rfl hl)
  · exact .inl (SettingsFile.eq_of_placeLooksAt rfl rfl rfl hl)
  rcases hl with hl | ⟨⟨file, content⟩, hfile, hl⟩
  · exact .inr (.inl (SettingsFile.eq_of_pathLooksAt rfl (hstop _ (by simp)) hl))
  · rw [hfound] at hfile
    cases hfile
    obtain ⟨_, hnext, hl⟩ := SettingsFile.chainLooksAt_iff.mp hl
    rw [htarget] at hnext
    cases hnext
    rcases hl with hl | ⟨⟨file, content⟩, hfile, hl⟩
    · exact .inr (.inr (SettingsFile.eq_of_pathLooksAt rfl (hstop _ (by simp)) hl))
    · rw [hbase] at hfile
      cases hfile
      -- the second file extends none
      obtain ⟨_, hnext, -⟩ := SettingsFile.chainLooksAt_iff.mp hl
      rw [hlast] at hnext
      cases hnext

/-- The files that the settings come from are not written, so the run can be repeated. -/
theorem run_again_extendedSettings :
    (run extendedSettings none []).result = .ok () ∧
      (run extendedSettings none []).tree.get? ["h"] ≠ none ∧
      (run extendedSettings none []).Repeats
        (run (extendedSettings.after (run extendedSettings none [])) none []) := by
  have hload : Loads extendedSettings [] { out := some "h" } :=
    loads_of_toOption rfl (by decide +kernel)
  have hresult : (Output.write extendedSettings.tree [] "h" (generatedText false)).1 = .ok "h" :=
    rfl
  obtain ⟨hok, -, htree⟩ :=
    result_of_write hload (Filter.read_warn _) rfl (Prod.ext hresult rfl) none
  refine ⟨hok, ?_, (run_again extendedSettings none [] rfl hok).1 fun l hl => ?_⟩
  · rw [htree]
    exact Option.isSome_iff_ne_none.mp rfl
  · rw [htree]
    rcases consults_extendedSettings hl with rfl | rfl | rfl <;> rfl

def missingSettings : Surroundings where
  tree := .empty
  here := []
  environment := [("MEMGEN_CONFIG_PATH", "c.json")]
  patterns := closedGroups

def settingsWritten (text : String) : FileTree :=
  FileTree.empty.put ["c.json"] (.file (Text.bytes text))

theorem write_missingSettings (text : String) :
    Output.write missingSettings.tree [] "c.json" text = (.ok "c.json", settingsWritten text) := rfl

theorem layers?_settingsWritten (text : String) :
    SettingsFile.layers? (settingsWritten text) [] "c.json" =
      some (.error (.file "/c.json" .jsonFormat)) := by
  have hfound : (settingsWritten text).resolve [] .follow "c.json" =
      .ok (.entry ["c.json"] (.file (Text.bytes text))) := rfl
  have hmem : ["c.json"] ∈ SettingsFile.regularFiles (settingsWritten text) :=
    SettingsFile.mem_regularFiles.mpr ⟨_, rfl⟩
  have hextension : (SettingsFile.extension "c.json").map Text.small = some "json" := by
    decide +kernel
  have hdecode : SettingsFile.decode (List.getLastD ["c.json"] "") (Text.bytes text) =
      .error .jsonFormat := by
    simp [SettingsFile.decode, Text.ofBytes?_bytes, hextension]
  simp only [SettingsFile.layers?, hfound]
  rw [SettingsFile.chain, dif_pos hmem, hdecode]
  rfl

theorem errors_settingsWritten (text : String) :
    (Settings.lowerLayers (settingsWritten text) [] missingSettings.environment).2 =
      [.file "/c.json" .jsonFormat] := by
  have hplaces : (SettingsFile.places missingSettings.environment []).eraseDups =
      ["c.json", "/etc/xdg/memgen/config.toml", "/etc/xdg/.memgen.toml", "/.memgen.toml"] := by
    decide +kernel
  have hshared : SettingsFile.layers? (settingsWritten text) [] "/etc/xdg/memgen/config.toml" =
      none := rfl
  have hshared' : SettingsFile.layers? (settingsWritten text) [] "/etc/xdg/.memgen.toml" = none :=
    rfl
  have hother : SettingsFile.layers? (settingsWritten text) [] "/.memgen.toml" = none := rfl
  simp only [Settings.lowerLayers, hplaces, SettingsFile.firstOf, layers?_settingsWritten, hshared,
    hshared', hother, List.nil_append]

/-- A run whose output is its own settings file succeeds once; then the settings cannot be read. -/
theorem output_is_settings_file :
    let words := ["--out", "c.json"].map Text.bytes
    let first := run missingSettings none words
    first.result = .ok () ∧
      ∃ errors, (run (missingSettings.after first) none words).result =
        .error (.loading errors) := by
  intro words first
  have hread : CommandLine.read words = .ok { out := some "c.json" } := rfl
  have hload : Loads missingSettings words { out := some "c.json" } :=
    loads_of_toOption hread (by decide +kernel)
  have hfirst : first.result = .ok () ∧ first.printed = "" ∧
      first.tree = settingsWritten (generatedText false) :=
    result_of_write hload (Filter.read_warn _) rfl (write_missingSettings _) none
  clear_value first
  obtain ⟨hok, -, htree⟩ := hfirst
  have hfailed : (Settings.lowerLayers (settingsWritten (generatedText false)) []
      missingSettings.environment).2 ≠ [] := by
    rw [errors_settingsWritten]
    simp
  obtain ⟨errors, herrors, -⟩ := Settings.load_of_errors hfailed { out := some "c.json" }
  rw [← htree] at herrors
  have hload' : Settings.load (missingSettings.after first).tree (missingSettings.after first).here
      (missingSettings.after first).environment { out := some "c.json" } = .error errors := herrors
  exact ⟨hok, errors, result_of_load_error hread hload' none⟩

end Run

end Overloads
