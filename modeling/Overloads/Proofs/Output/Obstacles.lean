import Mathlib.Control.Monad.Basic
import Overloads.Proofs.Output.Frame
import Overloads.Proofs.Output.Repetition

/-!
# Obstacles on the way to a file

Whatever stops a reader on the way to a file stops a writer too, and the writer has changed nothing
then (`obstacles_agree`). What stands in a file is no obstacle: it is written over, also where it is
no text.
-/

namespace Overloads

namespace FileTree

/-- The other tree has this content in the file, and all else as it was. -/
structure Overwrites (t u : FileTree) (l : Location) (content : ByteArray) : Prop where
  content_eq : u.get? l = some (.file content)
  same : ∀ m, m ≠ l → u.get? m = t.get? m

variable {t : FileTree} {floor : Option Location} {arrival : Arrival}

theorem overwrites_put {l : Location} (h : t.HasRoom l) (content : ByteArray) :
    t.Overwrites (t.put l (.file content)) l content where
  content_eq := by rw [get?_put h, if_pos rfl]
  same m hm := by rw [get?_put h, if_neg (Ne.symm hm)]

/-! ## Walks look into no file -/

theorem stroll_ne_notText {jump : Location → String → List Step → Except SystemError Spot}
    (hjump : ∀ cur target rest, jump cur target rest ≠ .error .notText) :
    ∀ (steps : List Step) (cur : Location),
      stroll t floor arrival jump cur steps ≠ .error .notText
  | [], cur => by
    rw [stroll]
    simp
  | .here :: rest, cur | .slash :: rest, cur => by
    rw [stroll]
    exact stroll_ne_notText hjump rest cur
  | .up :: rest, cur => by
    rw [stroll]
    split
    · simp
    · exact stroll_ne_notText hjump rest cur.dropLast
  | .name n :: rest, cur => by
    rw [stroll]
    split
    · simp [SystemError.isDirectory]
    · split
      · simp [SystemError.nameTooLong]
      · split
        · exact stroll_ne_notText hjump rest (cur ++ [n])
        · split
          · simp
          · exact hjump _ _ _
        · split <;> simp [SystemError.notDirectory]
        · split <;> simp [SystemError.missing]

theorem walk_ne_notText : ∀ (links : Nat) (cur : Location) (steps : List Step),
    walk t floor arrival links cur steps ≠ .error .notText
  | 0, cur, steps => by
    rw [walk_eq_stroll]
    exact stroll_ne_notText (fun _ _ _ => by simp [jump, SystemError.tooManyLinks]) steps cur
  | links + 1, cur, steps => by
    rw [walk_eq_stroll]
    refine stroll_ne_notText (fun cur target rest => ?_) steps cur
    simp only [jump]
    split
    · simp
    · exact walk_ne_notText links _ _

theorem resolve_ne_notText (here : Location) (path : String) :
    t.resolve here arrival path ≠ .error .notText := by
  unfold resolve
  split
  · simp [SystemError.nameTooLong]
  · unfold trace
    split
    · simp
    · split
      · simp [SystemError.missing]
      · exact walk_ne_notText _ _ _

theorem resolveBeneath_ne_notText (directory : Location) (name : String) :
    t.resolveBeneath directory arrival name ≠ .error .notText := by
  unfold resolveBeneath
  split
  · simp [SystemError.invalid]
  · exact walk_ne_notText _ _ _

theorem openDirectory_ne_notText (here : Location) (path : String) :
    t.openDirectory here path ≠ .error .notText := by
  unfold openDirectory
  split
  · next e h =>
    intro he
    cases he
    exact resolve_ne_notText here path h
  · simp
  · simp [SystemError.notDirectory]
  · simp [SystemError.missing]

end FileTree

namespace Output

open FileTree

variable {t u : FileTree} {here directory : Location} {path name text : String}

/-! ## What a reader can say -/

theorem read_of_split_none (h : Path.split? path = none) :
    read t here path = .error (.invalidOutputPath path) := by
  simp only [read, split, h]

/-- Where reading fails, the path is no path of a file, or the directory of the file cannot be
opened, or the file cannot be read. -/
theorem read_error_cases {f : Fault} (h : read t here path = .error f) :
    (Path.split? path = none ∧ f = .invalidOutputPath path) ∨
      ∃ parent name e, Path.split? path = some (parent, name) ∧ e ≠ .missing ∧
        ((t.openDirectory here parent = .error e ∧ f = .io parent e) ∨
          ∃ directory, t.openDirectory here parent = .ok directory ∧
            readBeneath t directory name = .error e ∧ f = .io path e) := by
  cases hsplit : Path.split? path with
  | none =>
    rw [read_of_split_none hsplit] at h
    cases h
    exact .inl ⟨rfl, rfl⟩
  | some p =>
    obtain ⟨parent, name⟩ := p
    right
    simp only [read, split, hsplit] at h
    split at h
    · next e hopen =>
      split at h <;> cases h
      next he => exact ⟨parent, name, e, rfl, he, .inl ⟨hopen, rfl⟩⟩
    · next directory hopen =>
      split at h
      · cases h
      · next e hread =>
        split at h <;> cases h
        next he => exact ⟨parent, name, e, rfl, he, .inr ⟨directory, hopen, hread, rfl⟩⟩

theorem read_error_of_split_iff (p : String) :
    read t here path = .error (.invalidOutputPath p) ↔ Path.split? path = none ∧ p = path := by
  constructor
  · intro h
    rcases read_error_cases h with ⟨hsplit, hf⟩ | ⟨_, _, _, -, -, ⟨-, hf⟩ | ⟨_, -, -, hf⟩⟩
    · exact ⟨hsplit, Fault.invalidOutputPath.inj hf⟩
    · cases hf
    · cases hf
  · rintro ⟨hsplit, rfl⟩
    exact read_of_split_none hsplit

theorem readBeneath_eq_notText (h : readBeneath t directory name = .error .notText) :
    ∃ l content, t.resolveBeneath directory .follow name = .ok (.entry l (.file content)) ∧
      Text.ofBytes? content = none := by
  unfold readBeneath at h
  split at h
  · next e hresolve =>
    cases h
    exact absurd hresolve (resolveBeneath_ne_notText directory name)
  · cases h
  · next l content hresolve =>
    split at h
    · cases h
    · next hcontent => exact ⟨l, content, hresolve, hcontent⟩
  · split at h <;> cases h
  · cases h
  · cases h

/-! ## What a writer does there -/

theorem write_error_of_split_iff (p : String) :
    (write t here path text).1 = .error (.invalidOutputPath p) ↔
      Path.split? path = none ∧ p = path := by
  cases hsplit : Path.split? path with
  | none =>
    rw [write_of_split_none hsplit]
    simp [eq_comm]
  | some q =>
    obtain ⟨parent, name⟩ := q
    simp only [write, split, hsplit]
    split
    · next f made hensure =>
      obtain ⟨e, rfl⟩ := exists_io_of_ensure hensure
      simp
    · split <;> simp

theorem write_of_open_error {parent : String} {e : SystemError}
    (hsplit : Path.split? path = some (parent, name))
    (hopen : t.openDirectory here parent = .error e) (he : e ≠ .missing) :
    write t here path text = (.error (.io parent e), t) := by
  simp only [write, split, hsplit, ensureDirectory, hopen, if_neg he]

theorem write_of_beneath_error {parent : String} {e : SystemError}
    (hsplit : Path.split? path = some (parent, name))
    (hopen : t.openDirectory here parent = .ok directory)
    (h : writeBeneath t directory name text = .error e) :
    write t here path text = (.error (.io path e), t) := by
  simp only [write, split, hsplit, ensureDirectory_of_open hopen, h]

/-- Where no device is about, a writer comes through only where a reader finds a file or nothing at
all. -/
theorem readBeneath_of_writeBeneath {e : SystemError} (hplain : t.IsPlain)
    (hdirectory : t.get? directory = some .directory)
    (h : writeBeneath t directory name text = .ok u)
    (hread : readBeneath t directory name = .error e) : e = .missing ∨ e = .notText := by
  cases hmake : t.resolveBeneath directory .make name with
  | error e => simp [writeBeneath, hmake] at h
  | ok spot =>
    obtain ⟨hnul, hleads⟩ := resolveBeneath_eq_ok_iff.mp hmake
    have hfollow := resolveBeneath_eq_ok_iff.mpr ⟨hnul, hleads.follow_of_make⟩
    simp only [writeBeneath, hmake] at h
    simp only [readBeneath, hfollow] at hread
    cases spot with
    | free l =>
      cases hread
      exact .inl rfl
    | entry l e =>
      cases e with
      | file content =>
        simp only at hread
        split at hread <;> cases hread
        exact .inr rfl
      | sink full => exact absurd (hleads.get?_location hdirectory).1 (hplain l full)
      | directory => cases h
      | link target => cases h

theorem hasRoom_of_locate {l : Location} (hhere : t.get? here = some .directory)
    (h : locate t here path = some l) : t.HasRoom l := by
  obtain ⟨parent, name, directory, content, hsplit, hopen, hresolve⟩ := locate_eq_some_iff.mp h
  obtain ⟨-, hleads⟩ := resolveBeneath_eq_ok_iff.mp hresolve
  exact (hleads.get?_location (get?_of_openDirectory hhere hopen)).2 (by simp [Spot.entry?])

theorem exists_overwrites {l : Location} (hhere : t.get? here = some .directory)
    (h : locate t here path = some l) (text : String) :
    ∃ u, write t here path text = (.ok path, u) ∧ t.Overwrites u l (Text.bytes text) :=
  ⟨_, write_of_locate h, overwrites_put (hasRoom_of_locate hhere h) _⟩

theorem write_of_notText {p : String} (text : String) (hplain : t.IsPlain)
    (hhere : t.get? here = some .directory) (h : read t here path = .error (.io p .notText)) :
    p = path ∧ ∃ l content u, locate t here path = some l ∧
      t.get? l = some (.file content) ∧ Text.ofBytes? content = none ∧
      write t here path text = (.ok path, u) ∧ t.Overwrites u l (Text.bytes text) ∧
      read u here path = .ok (some text) := by
  rcases read_error_cases h with ⟨-, hf⟩ | ⟨parent, name, e, hsplit, -, hwhere⟩
  · cases hf
  · rcases hwhere with ⟨hopen, hf⟩ | ⟨directory, hopen, hread, hf⟩
    · cases hf
      exact absurd hopen (openDirectory_ne_notText here p)
    · cases hf
      obtain ⟨l, content, hresolve, hcontent⟩ := readBeneath_eq_notText hread
      have hlocate : locate t here path = some l :=
        locate_eq_some_iff.mpr ⟨parent, name, directory, content, hsplit, hopen, hresolve⟩
      have hl := ((resolveBeneath_eq_ok_iff.mp hresolve).2.get?_location
        (get?_of_openDirectory hhere hopen)).1
      obtain ⟨u, hwrite, hover⟩ := exists_overwrites hhere hlocate text
      obtain ⟨l', hl'⟩ := locate_of_write hplain hhere hwrite
      have hback := read_of_located_write hhere hwrite hl'
      exact ⟨rfl, l, content, u, hlocate, hl, hcontent, hwrite, hover, hback⟩

theorem write_of_read_error {p : String} {e : SystemError} (hplain : t.IsPlain)
    (hhere : t.get? here = some .directory) (he : e ≠ .notText)
    (h : read t here path = .error (.io p e)) :
    ∃ e', write t here path text = (.error (.io p e'), t) := by
  rcases read_error_cases h with ⟨-, hf⟩ | ⟨parent, name, e₀, hsplit, hmissing, hwhere⟩
  · cases hf
  · rcases hwhere with ⟨hopen, hf⟩ | ⟨directory, hopen, hread, hf⟩
    · cases hf
      exact ⟨e, write_of_open_error hsplit hopen hmissing⟩
    · cases hf
      cases hwrite : writeBeneath t directory name text with
      | error e' => exact ⟨e', write_of_beneath_error hsplit hopen hwrite⟩
      | ok u =>
        -- a writer that comes through leaves the reader only the two reasons ruled out
        have hdirectory := get?_of_openDirectory hhere hopen
        rcases readBeneath_of_writeBeneath hplain hdirectory hwrite hread with hsame | hsame
        · exact absurd hsame hmissing
        · exact absurd hsame he

/-- Reading and writing refuse the same paths. A file that can be read is written over, and so is
one that is no text, which can be read from then on. Where anything else is in the way of a reader
it is in the way of a writer, and nothing changes. -/
theorem obstacles_agree (t : FileTree) (here : Location) (path text : String)
    (hplain : t.IsPlain) (hhere : t.get? here = some .directory) :
    (∀ p, read t here path = .error (.invalidOutputPath p) ↔
      (write t here path text).1 = .error (.invalidOutputPath p)) ∧
    (∀ x, read t here path = .ok (some x) →
      ∃ l u, locate t here path = some l ∧ t.get? l = some (.file (Text.bytes x)) ∧
        write t here path text = (.ok path, u) ∧ t.Overwrites u l (Text.bytes text)) ∧
    (∀ p, read t here path = .error (.io p .notText) →
      p = path ∧ ∃ l content u, locate t here path = some l ∧
        t.get? l = some (.file content) ∧ Text.ofBytes? content = none ∧
        write t here path text = (.ok path, u) ∧ t.Overwrites u l (Text.bytes text) ∧
        read u here path = .ok (some text)) ∧
    ∀ p e, e ≠ .notText → read t here path = .error (.io p e) →
      ∃ e', write t here path text = (.error (.io p e'), t) := by
  refine ⟨fun p => ?_, fun x hread => ?_, fun p hread => ?_, fun p e he hread => ?_⟩
  · rw [write_error_of_split_iff, read_error_of_split_iff]
  · obtain ⟨l, hl, hfile⟩ := (read_eq_some_iff hplain hhere).mp hread
    obtain ⟨u, hwrite, hover⟩ := exists_overwrites hhere hl text
    exact ⟨l, u, hl, hfile, hwrite, hover⟩
  · exact write_of_notText text hplain hhere hread
  · exact write_of_read_error hplain hhere he hread

def obstructed : FileTree :=
  FileTree.empty
    |>.put ["f"] (.file (Text.bytes "old"))
    |>.put ["b"] (.file ⟨#[255]⟩)
    |>.put ["d"] .directory
    |>.put ["l"] (.link "l")

theorem obstacles_agree_obstructed :
    obstructed.IsPlain ∧ obstructed.get? [] = some .directory ∧
      (write obstructed [] "d/.." "new").1 = .error (.invalidOutputPath "d/..") ∧
      (∃ u, write obstructed [] "f" "new" = (.ok "f", u) ∧
        obstructed.Overwrites u ["f"] (Text.bytes "new")) ∧
      (∃ u, write obstructed [] "b" "new" = (.ok "b", u) ∧ read u [] "b" = .ok (some "new")) ∧
      ∀ p ∈ [("d", "d"), ("l", "l"), ("f/g", "f")],
        ∃ e, write obstructed [] p.1 "new" = (.error (.io p.2 e), obstructed) := by
  have hplain : obstructed.IsPlain :=
    (((isPlain_empty.put (by simp) _).put (by simp) _).put (by simp) _).put (by simp) _
  have agree := fun path => obstacles_agree obstructed [] path "new" hplain rfl
  refine ⟨hplain, rfl, ?_, ?_, ?_, ?_⟩
  · exact ((agree "d/..").1 "d/..").mp rfl
  · obtain ⟨l, u, hl, -, hwrite, hover⟩ := (agree "f").2.1 "old" (by decide +kernel)
    have hlocate : locate obstructed [] "f" = some ["f"] := by decide +kernel
    cases hl.symm.trans hlocate
    exact ⟨u, hwrite, hover⟩
  · obtain ⟨-, -, -, u, -, -, -, hwrite, -, hread⟩ := (agree "b").2.2.1 "b" (by decide +kernel)
    exact ⟨u, hwrite, hread⟩
  · simp only [List.forall_mem_cons]
    refine ⟨?_, ?_, ?_, by simp⟩
    · exact (agree "d").2.2.2 "d" .isDirectory (by decide) (by decide +kernel)
    · exact (agree "l").2.2.2 "l" .tooManyLinks (by decide) (by decide +kernel)
    · exact (agree "f/g").2.2.2 "f" .notDirectory (by decide) (by decide +kernel)

end Output

end Overloads
