import Overloads.Output
import Overloads.Proofs.FileTree.Growth

/-!
# Where a write lands

A write that succeeds has opened the directory of its file, made before if it
was missing, and was led beneath it to a spot (`exists_landing`). What it
leaves is the old tree with directories besides and the text in one file
(`Landing.setsFile`), which is the file that the path leads to from then on
(`Landing.locate_eq`).
-/

namespace Overloads.Output

open FileTree

def locate (t : FileTree) (here : Location) (path : String) : Option Location :=
  match Path.split? path with
  | none => none
  | some (parent, name) => match t.openDirectory here parent with
    | .error _ => none
    | .ok directory => match t.resolveBeneath directory .follow name with
      | .ok (.entry l (.file _)) => some l
      | _ => none

structure Landing (t : FileTree) (here : Location) (path : String) where
  parent : String
  name : String
  /-- The tree with the directory of the file. -/
  made : FileTree
  directory : Location
  spot : Spot
  split_eq : Path.split? path = some (parent, name)
  ensure_eq : ensureDirectory t here parent = (.ok directory, made)
  resolve_eq : made.resolveBeneath directory .make name = .ok spot

/-! ## The directory of the file -/

variable {t u : FileTree} {here : Location} {path : String}

theorem ensureDirectory_grows (t : FileTree) (here : Location) (path : String) :
    t.AddsDirectories (ensureDirectory t here path).2 := by
  have hmake := makeDirectories_grows t here path
  unfold ensureDirectory
  split
  · exact .refl t
  · split
    · split
      · next h => rwa [h] at hmake
      · next h =>
        rw [h] at hmake
        split <;> exact hmake
    · exact .refl t

theorem openDirectory_of_ensure {directory : Location}
    (h : ensureDirectory t here path = (.ok directory, u)) :
    u.openDirectory here path = .ok directory := by
  unfold ensureDirectory at h
  split at h
  · next hopen => cases h; exact hopen
  · split at h
    · split at h
      · cases h
      · split at h
        · next hopen => cases h; exact hopen
        · cases h
    · cases h

theorem ensureDirectory_of_open {directory : Location}
    (h : t.openDirectory here path = .ok directory) :
    ensureDirectory t here path = (.ok directory, t) := by
  simp only [ensureDirectory, h]

theorem exists_io_of_ensure {f : Fault} (h : ensureDirectory t here path = (.error f, u)) :
    ∃ e, f = .io path e := by
  simp only [ensureDirectory] at h
  split at h
  · cases h
  · split at h
    · split at h
      · cases h; exact ⟨_, rfl⟩
      · split at h <;> cases h
        exact ⟨_, rfl⟩
    · cases h; exact ⟨_, rfl⟩

/-! ## Writes that succeed -/

theorem exists_landing {text written : String} (h : write t here path text = (.ok written, u)) :
    written = path ∧ ∃ landing : Landing t here path,
      writeBeneath landing.made landing.directory landing.name text = .ok u := by
  simp only [write, split] at h
  cases hsplit : Path.split? path with
  | none => simp [hsplit] at h
  | some p =>
    obtain ⟨parent, name⟩ := p
    simp only [hsplit] at h
    split at h
    · cases h
    · next directory made hensure =>
      split at h
      · cases h
      · next made' hwrite =>
        cases h
        cases hresolve : made.resolveBeneath directory .make name with
        | error e => simp [writeBeneath, hresolve] at hwrite
        | ok spot => exact ⟨rfl, ⟨_, _, _, _, _, hsplit, hensure, hresolve⟩, hwrite⟩

section
variable (landing : Landing t here path)

theorem Landing.grows : t.AddsDirectories landing.made := by
  have := ensureDirectory_grows t here landing.parent
  rwa [landing.ensure_eq] at this

theorem Landing.leads : landing.made.Leads (some landing.directory) .make mostLinks
    landing.directory [.name landing.name] landing.spot :=
  (resolveBeneath_eq_ok_iff.mp landing.resolve_eq).2

/-- A write puts the text where nothing or a file was, or a device takes it. -/
theorem Landing.writeBeneath_cases {text : String}
    (h : writeBeneath landing.made landing.directory landing.name text = .ok u) :
    (landing.spot.entry? = none ∨ ∃ old, landing.spot.entry? = some (.file old)) ∧
        u = landing.made.put landing.spot.location (.file (Text.bytes text)) ∨
      (∃ full, landing.spot.entry? = some (.sink full) ∧ (full → text = "")) ∧
        u = landing.made := by
  simp only [writeBeneath, landing.resolve_eq] at h
  split at h
  · cases h
  · next l hspot =>
    cases h
    rw [Except.ok.inj hspot]
    exact .inl ⟨.inl rfl, rfl⟩
  · next l old hspot =>
    cases h
    rw [Except.ok.inj hspot]
    exact .inl ⟨.inr ⟨old, rfl⟩, rfl⟩
  · next l full hspot =>
    split at h
    · cases h
    · next htaken =>
      cases h
      rw [Except.ok.inj hspot]
      exact .inr ⟨⟨full, rfl, fun hfull =>
        Decidable.byContradiction fun hne => htaken ⟨hfull, hne⟩⟩, rfl⟩
  · cases h
  · cases h

variable (hhere : t.get? here = some .directory)
include hhere

theorem Landing.get?_directory : landing.made.get? landing.directory = some .directory :=
  get?_of_openDirectory (landing.grows.kept _ _ hhere) (openDirectory_of_ensure landing.ensure_eq)

theorem Landing.get?_location :
    landing.made.get? landing.spot.location = landing.spot.entry? :=
  (landing.leads.get?_location (landing.get?_directory hhere)).1

theorem Landing.setsFile_put
    (hspot : landing.spot.entry? = none ∨ ∃ old, landing.spot.entry? = some (.file old))
    (content : ByteArray) :
    landing.made.SetsFile (landing.made.put landing.spot.location (.file content))
      landing.spot.location content := by
  have hroom : landing.made.HasRoom landing.spot.location := by
    refine (landing.leads.get?_location (landing.get?_directory hhere)).2 fun hd => ?_
    rw [hd] at hspot
    rcases hspot with hn | ⟨old, hn⟩ <;> cases hn
  refine FileTree.setsFile_put hroom ?_ _
  rw [landing.get?_location hhere]
  exact hspot

theorem Landing.setsFile_or_sink {text : String}
    (h : writeBeneath landing.made landing.directory landing.name text = .ok u) :
    landing.made.SetsFile u landing.spot.location (Text.bytes text) ∨
      (∃ full, landing.spot.entry? = some (.sink full) ∧ (full → text = "")) ∧
        u = landing.made := by
  rcases landing.writeBeneath_cases h with ⟨hspot, rfl⟩ | hsink
  · exact .inl (landing.setsFile_put hhere hspot _)
  · exact .inr hsink

theorem Landing.openDirectory (hu : landing.made.Carries u) :
    u.openDirectory here landing.parent = .ok landing.directory :=
  hu.openDirectory (landing.grows.kept _ _ hhere) (openDirectory_of_ensure landing.ensure_eq)

/-- The file is where the walk of the write leads to from then on. -/
theorem Landing.leads_of_setsFile {content : ByteArray}
    (hu : landing.made.SetsFile u landing.spot.location content) :
    u.Leads (some landing.directory) .make mostLinks landing.directory [.name landing.name]
      (.entry landing.spot.location (.file content)) :=
  landing.leads.carry (landing.get?_directory hhere) hu.carries hu.content_eq
    (fun hpass => absurd hpass id) (fun _ => rfl)

/-- The path leads to the file that was written, although a reader makes nothing on its way. -/
theorem Landing.locate_of_setsFile {content : ByteArray}
    (hu : landing.made.SetsFile u landing.spot.location content) :
    locate u here path = some landing.spot.location := by
  have hresolve := resolveBeneath_eq_ok_iff.mpr
    ⟨(resolveBeneath_eq_ok_iff.mp landing.resolve_eq).1,
      (landing.leads_of_setsFile hhere hu).follow_of_make⟩
  simp only [locate, landing.split_eq, landing.openDirectory hhere hu.carries, hresolve]

variable (hplain : t.IsPlain)
include hplain

/-- All that the second step of a write does, where no device takes the text. -/
theorem Landing.setsFile_made {text : String}
    (h : writeBeneath landing.made landing.directory landing.name text = .ok u) :
    landing.made.SetsFile u landing.spot.location (Text.bytes text) := by
  rcases landing.setsFile_or_sink hhere h with hsets | ⟨⟨full, hspot, -⟩, -⟩
  · exact hsets
  · have hget := landing.get?_location hhere
    rw [hspot] at hget
    exact absurd hget (landing.grows.isPlain hplain _ full)

theorem Landing.setsFile {text : String}
    (h : writeBeneath landing.made landing.directory landing.name text = .ok u) :
    t.SetsFile u landing.spot.location (Text.bytes text) :=
  landing.grows.setsFile (landing.setsFile_made hhere hplain h)

theorem Landing.locate_eq {text : String}
    (h : writeBeneath landing.made landing.directory landing.name text = .ok u) :
    locate u here path = some landing.spot.location :=
  landing.locate_of_setsFile hhere (landing.setsFile_made hhere hplain h)

end

/-! ## Reading -/

theorem locate_eq_some_iff {l : Location} :
    locate t here path = some l ↔
      ∃ parent name directory content, Path.split? path = some (parent, name) ∧
        t.openDirectory here parent = .ok directory ∧
        t.resolveBeneath directory .follow name = .ok (.entry l (.file content)) := by
  unfold locate
  constructor
  · intro h
    split at h
    · cases h
    · next parent name hsplit =>
      split at h
      · cases h
      · next directory hopen =>
        split at h
        · next m content hresolve =>
          cases h
          exact ⟨parent, name, directory, content, hsplit, hopen, hresolve⟩
        · cases h
  · rintro ⟨parent, name, directory, content, hsplit, hopen, hresolve⟩
    simp only [hsplit, hopen, hresolve]

/-- A path that leads to a file goes on leading there, whatever else is made or written. -/
theorem locate_of_carries {l : Location} {content : ByteArray}
    (hhere : t.get? here = some .directory) (hu : t.Carries u)
    (h : locate t here path = some l) (hl : u.get? l = some (.file content)) :
    locate u here path = some l := by
  obtain ⟨parent, name, directory, old, hsplit, hopen, hresolve⟩ := locate_eq_some_iff.mp h
  obtain ⟨hnul, hleads⟩ := resolveBeneath_eq_ok_iff.mp hresolve
  have hleads := hleads.carry (get?_of_openDirectory hhere hopen) hu hl
    (fun hpass => absurd hpass id) (fun hn => by cases hn)
  exact locate_eq_some_iff.mpr ⟨parent, name, directory, content, hsplit,
    hu.openDirectory hhere hopen, resolveBeneath_eq_ok_iff.mpr ⟨hnul, hleads⟩⟩

theorem read_eq_some {text : String} :
    read t here path = .ok (some text) ↔
      ∃ parent name directory, Path.split? path = some (parent, name) ∧
        t.openDirectory here parent = .ok directory ∧
        readBeneath t directory name = .ok text := by
  constructor
  · intro h
    simp only [read, split] at h
    cases hsplit : Path.split? path with
    | none => simp [hsplit] at h
    | some p =>
      obtain ⟨parent, name⟩ := p
      simp only [hsplit] at h
      split at h
      · split at h <;> cases h
      · next directory hopen =>
        split at h
        · next found hread =>
          cases h
          exact ⟨parent, name, directory, rfl, hopen, hread⟩
        · split at h <;> cases h
  · rintro ⟨parent, name, directory, hsplit, hopen, hread⟩
    simp only [read, split, hsplit, hopen, hread]

/-- What a read gives is in a file beneath the directory, or a device gave it. -/
theorem readBeneath_eq_ok {directory : Location} {name text : String}
    (hdirectory : t.get? directory = some .directory) (h : readBeneath t directory name = .ok text) :
    ∃ l e, t.resolveBeneath directory .follow name = .ok (.entry l e) ∧ t.get? l = some e ∧
      (e = .file (Text.bytes text) ∨ (∃ full, e = .sink full) ∧ text = "") := by
  have hget : ∀ {l e}, t.resolveBeneath directory .follow name = .ok (.entry l e) →
      t.get? l = some e := fun hresolve =>
    ((resolveBeneath_eq_ok_iff.mp hresolve).2.get?_location hdirectory).1
  unfold readBeneath at h
  split at h
  · cases h
  · cases h
  · next l content hresolve =>
    split at h
    · next found hfound =>
      cases h
      rw [Text.ofBytes?_eq_some_iff] at hfound
      subst hfound
      exact ⟨l, _, hresolve, hget hresolve, .inl rfl⟩
    · cases h
  · next l full hresolve =>
    split at h <;> cases h
    exact ⟨l, _, hresolve, hget hresolve, .inr ⟨⟨full, rfl⟩, rfl⟩⟩
  · cases h
  · cases h

theorem readBeneath_of_file {directory l : Location} {name text : String}
    (h : t.resolveBeneath directory .follow name = .ok (.entry l (.file (Text.bytes text)))) :
    readBeneath t directory name = .ok text := by
  simp only [readBeneath, h, Text.ofBytes?_bytes]

theorem read_of_locate_eq {l : Location} {text : String} (hhere : t.get? here = some .directory)
    (hl : locate t here path = some l) (hfile : t.get? l = some (.file (Text.bytes text))) :
    read t here path = .ok (some text) := by
  obtain ⟨parent, name, directory, content, hsplit, hopen, hresolve⟩ := locate_eq_some_iff.mp hl
  have hdirectory := get?_of_openDirectory hhere hopen
  have hcontent := ((resolveBeneath_eq_ok_iff.mp hresolve).2.get?_location hdirectory).1
  simp only [Spot.location, Spot.entry?, hfile, Option.some.injEq, Entry.file.injEq] at hcontent
  subst hcontent
  exact read_eq_some.mpr ⟨parent, name, directory, hsplit, hopen, readBeneath_of_file hresolve⟩

theorem read_eq_some_iff {text : String} (hplain : t.IsPlain)
    (hhere : t.get? here = some .directory) :
    read t here path = .ok (some text) ↔
      ∃ l, locate t here path = some l ∧ t.get? l = some (.file (Text.bytes text)) := by
  constructor
  · intro h
    obtain ⟨parent, name, directory, hsplit, hopen, hread⟩ := read_eq_some.mp h
    obtain ⟨l, e, hresolve, hget, rfl | ⟨⟨full, rfl⟩, -⟩⟩ :=
      readBeneath_eq_ok (get?_of_openDirectory hhere hopen) hread
    · exact ⟨l, locate_eq_some_iff.mpr ⟨_, _, _, _, hsplit, hopen, hresolve⟩, hget⟩
    · exact absurd hget (hplain l full)
  · rintro ⟨l, hl, hfile⟩
    exact read_of_locate_eq hhere hl hfile

end Overloads.Output
