import Overloads.Proofs.Header.Layout
import Overloads.Proofs.Log.Patterns
import Overloads.Proofs.Output.Frame
import Overloads.Proofs.Output.ReadBack
import Overloads.Proofs.Run.Ending

/-!
# Runs by their mode

A run that writes or compares leaves what writing or comparing leaves, whatever its printer does
(`leaves_of_write`, `leaves_of_compare`). Only a run that writes changes the tree
(`tree_eq_or_writes`), and only one that compares finds a file out of date
(`compares_of_outOfDate`).
-/

namespace Overloads

theorem generatedText_inj {a b : Bool} (h : generatedText a = generatedText b) : a = b := by
  have hpragmas : (!a) = !b := Header.pragmas_eq_of_text (by decide) h
  simpa using hpragmas

theorem generatedText_ne_empty (omitPragmas : Bool) : generatedText omitPragmas ≠ "" :=
  Header.text_ne_empty .standard !omitPragmas

namespace Settings

variable {settings : Settings} {path : String}

theorem mode_eq_write_iff :
    settings.mode = .ok (.write path) ↔ settings.out = some path ∧ settings.check = false := by
  unfold mode
  cases settings.out <;> cases settings.check <;> simp

theorem mode_eq_compare_iff :
    settings.mode = .ok (.compare path) ↔ settings.out = some path ∧ settings.check = true := by
  unfold mode
  cases settings.out <;> cases settings.check <;> simp

end Settings

theorem Output.write_ne_outOfDate {t : FileTree} {here : Location} {path text p : String} :
    (write t here path text).1 ≠ .error (.outOfDate p) := by
  intro h
  simp only [write, split] at h
  cases hsplit : Path.split? path with
  | none => simp [hsplit] at h
  | some q =>
    simp only [hsplit] at h
    split at h
    · next hensure =>
      cases h
      obtain ⟨e, he⟩ := exists_io_of_ensure hensure
      cases he
    · split at h <;> cases h

def Surroundings.after (s : Surroundings) (o : Outcome) : Surroundings := { s with tree := o.tree }

@[simp] theorem Surroundings.after_tree (s : Surroundings) (o : Outcome) :
    (s.after o).tree = o.tree := rfl

theorem Surroundings.after_eq_self {s : Surroundings} {o : Outcome} (h : o.tree = s.tree) :
    s.after o = s := by
  rw [after, h]

namespace Run

variable {s : Surroundings} {words : List ByteArray} {settings : Settings} {f : Filter}
  {path : String}

theorem loads_of_toOption {c : CommandLine} (hread : CommandLine.read words = .ok c)
    (hload : (Settings.load s.tree s.here s.environment c).toOption = some settings) :
    Loads s words settings := by
  refine ⟨c, hread, ?_⟩
  cases h : Settings.load s.tree s.here s.environment c <;> rw [h] at hload <;> cases hload
  rfl

theorem Loads.eq {settings' : Settings} (h : Loads s words settings)
    (h' : Loads s words settings') : settings' = settings := by
  obtain ⟨c, hread, hload⟩ := h
  obtain ⟨c', hread', hload'⟩ := h'
  cases hread.symm.trans hread'
  exact Except.ok.inj (hload'.symm.trans hload)

theorem result_of_load_error {c : CommandLine} {errors : List LoadError}
    (hread : CommandLine.read words = .ok c)
    (hload : Settings.load s.tree s.here s.environment c = .error errors)
    (called : Option ByteArray) : (run s called words).result = .error (.loading errors) := by
  simp only [run, hread, hload, refuse]

theorem loads_of_result {c : CommandLine} {called : Option ByteArray}
    (hread : CommandLine.read words = .ok c) (hok : (run s called words).result = .ok ()) :
    ∃ settings f, Loads s words settings ∧
      Filter.read s.patterns settings.logLevel = .ok f := by
  cases hload : Settings.load s.tree s.here s.environment c with
  | error es => simp [run, hread, hload, refuse] at hok
  | ok settings =>
    cases hfilter : Filter.read s.patterns settings.logLevel with
    | error e => simp [run, hread, hload, serveFiltered, hfilter, refuse] at hok
    | ok f => exact ⟨settings, f, ⟨c, hread, hload⟩, hfilter⟩

section
variable (hload : Loads s words settings)
  (hfilter : Filter.read s.patterns settings.logLevel = .ok f)
include hload hfilter

theorem run_of_loads (called : Option ByteArray) :
    run s called words =
      { serve s settings with events := (serve s settings).events.filter f.admits } := by
  obtain ⟨c, hread, hload⟩ := hload
  simp only [run, hread, hload, serveFiltered, hfilter]

theorem leaves_of_write (hmode : settings.mode = .ok (.write path)) (called : Option ByteArray) :
    (Ending.written settings.omitPragmas path).Leaves s called (run s called words) := by
  have hleaves := leaves_of_loads (by rw [hmode]; nofun) called hload hfilter
  obtain ⟨hout, hcheck⟩ := Settings.mode_eq_write_iff.mp hmode
  simpa only [Ending.ofSettings, hout, hcheck] using hleaves

theorem leaves_of_compare (hmode : settings.mode = .ok (.compare path))
    (called : Option ByteArray) :
    (Ending.compared settings.omitPragmas path).Leaves s called (run s called words) := by
  have hleaves := leaves_of_loads (by rw [hmode]; nofun) called hload hfilter
  obtain ⟨hout, hcheck⟩ := Settings.mode_eq_compare_iff.mp hmode
  simpa only [Ending.ofSettings, hout, hcheck] using hleaves

theorem write_of_result (hmode : settings.mode = .ok (.write path)) {called : Option ByteArray}
    (h : (run s called words).result = .ok ()) :
    Output.write s.tree s.here path (generatedText settings.omitPragmas) =
      (.ok path, (run s called words).tree) := by
  have hleaves := leaves_of_write hload hfilter hmode called
  rw [hleaves.result_eq, Ending.result_written] at h
  rw [hleaves.tree_eq, Ending.tree_written]
  split at h
  · next written hwrite =>
    obtain ⟨rfl, -⟩ := Output.exists_landing (Prod.ext hwrite rfl)
    exact Prod.ext hwrite rfl
  · cases h

theorem result_of_write (hmode : settings.mode = .ok (.write path)) {t : FileTree}
    {written : String}
    (h : Output.write s.tree s.here path (generatedText settings.omitPragmas) = (.ok written, t))
    (called : Option ByteArray) :
    (run s called words).result = .ok () ∧ (run s called words).printed = "" ∧
      (run s called words).tree = t := by
  have hleaves := leaves_of_write hload hfilter hmode called
  rw [hleaves.result_eq, hleaves.printed_eq, hleaves.tree_eq]
  simp only [Ending.result_written, Ending.printedText_written, Ending.tree_written, h, and_self]

theorem result_of_compare (hmode : settings.mode = .ok (.compare path)) {found : Option String}
    (hfound : Output.read s.tree s.here path = .ok found) (called : Option ByteArray) :
    let o := run s called words
    o.tree = s.tree ∧ o.printed = "" ∧
      (o.result = .ok () ↔ found = some (generatedText settings.omitPragmas)) ∧
      (o.result ≠ .ok () → o.result = .error (.fault (.outOfDate path))) := by
  intro o
  have hleaves := leaves_of_compare hload hfilter hmode called
  have hcheck := Output.check_eq_of_read s.tree s.here path (generatedText settings.omitPragmas)
    hfound
  refine ⟨hleaves.tree_eq, hleaves.printed_eq, ?_⟩
  rw [hleaves.result_eq, Ending.result_compared, hcheck]
  by_cases hsame : found = some (generatedText settings.omitPragmas)
  · simp [hsame]
  · simp [hsame]

end

/-! ## What a run must have been -/

/-- A run was started with its settings, or its end is that of a text that is shown or of a failure
before that. -/
theorem started_or_refused (s : Surroundings) (called : Option ByteArray) (words : List ByteArray) :
    (∃ settings f, Loads s words settings ∧ Filter.read s.patterns settings.logLevel = .ok f ∧
      (run s called words).result = (serve s settings).result ∧
      (run s called words).tree = (serve s settings).tree) ∨
    (run s called words).tree = s.tree ∧
      ∀ p, (run s called words).result ≠ .error (.fault (.outOfDate p)) := by
  cases hread : CommandLine.read words with
  | error e =>
    refine .inr ?_
    cases e <;> simp [run, hread, showText, refuse]
  | ok c =>
    cases hload : Settings.load s.tree s.here s.environment c with
    | error es => simp [run, hread, hload, refuse]
    | ok settings =>
      cases hfilter : Filter.read s.patterns settings.logLevel with
      | error e =>
        refine .inr ?_
        cases e <;> simp [run, hread, hload, serveFiltered, hfilter, refuse, Failure.ofFilterError]
      | ok f =>
        refine .inl ⟨settings, f, ⟨c, hread, hload⟩, hfilter, ?_⟩
        simp [run, hread, hload, serveFiltered, hfilter]

theorem tree_eq_or_writes (s : Surroundings) (called : Option ByteArray) (words : List ByteArray) :
    (run s called words).tree = s.tree ∨
      ∃ settings f path, Loads s words settings ∧ Filter.read s.patterns settings.logLevel = .ok f ∧
        settings.mode = .ok (.write path) := by
  rcases started_or_refused s called words with ⟨settings, f, hload, hfilter, -, htree⟩ | ⟨htree, -⟩
  · rw [htree]
    unfold serve
    split
    · exact .inl rfl
    · next mode hmode =>
      cases mode with
      | print => refine .inl ?_; cases hprinter : s.printer <;> simp [print, fail]
      | compare path => exact .inl (Output.compare_tree s.here path _ _ s.tree)
      | write path => exact .inr ⟨settings, f, path, hload, hfilter, hmode⟩
  · exact .inl htree

theorem compares_of_outOfDate {called : Option ByteArray} {p : String}
    (h : (run s called words).result = .error (.fault (.outOfDate p))) :
    ∃ settings f, Loads s words settings ∧
      Filter.read s.patterns settings.logLevel = .ok f ∧ settings.mode = .ok (.compare p) ∧
      Output.check s.tree s.here p (generatedText settings.omitPragmas) =
        .error (.outOfDate p) := by
  rcases started_or_refused s called words with ⟨settings, f, hload, hfilter, hresult, -⟩ | ⟨-, hne⟩
  · refine ⟨settings, f, hload, hfilter, ?_⟩
    cases hmode : settings.mode with
    | error g =>
      rw [hresult, serve, hmode] at h
      cases h
      simp only [Settings.mode] at hmode
      split at hmode <;> cases hmode
    | ok mode =>
      cases mode with
      | print =>
        rw [hresult, serve, hmode] at h
        cases hprinter : s.printer <;> simp [print, fail, hprinter] at h
      | write path =>
        have hleaves := leaves_of_write hload hfilter hmode called
        rw [hleaves.result_eq, Ending.result_written] at h
        split at h <;> cases h
        next hwrite => exact absurd hwrite Output.write_ne_outOfDate
      | compare path =>
        have hleaves := leaves_of_compare hload hfilter hmode called
        rw [hleaves.result_eq, Ending.result_compared] at h
        split at h <;> cases h
        next hcheck =>
          obtain ⟨rfl, -⟩ := (Output.check_eq_outOfDate_iff s.tree s.here path _ p).mp hcheck
          exact ⟨rfl, hcheck⟩
  · exact absurd h (hne p)

end Run

end Overloads
