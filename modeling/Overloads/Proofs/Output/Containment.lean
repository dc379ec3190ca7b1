import Overloads.Proofs.FileTree.Passing
import Overloads.Proofs.Output.Landing

/-!
# Beneath the directory of a file

What is written or read through a path stands beneath the directory that the path goes through,
at that directory's own location (`stays_beneath`). A name whose links lead out of that
directory is refused, and it does not matter whether they would come back or lead to anything.
-/

namespace Overloads.Output

open FileTree

/-- The location is beneath the directory of a path, to which only directories lead. -/
def IsBeneath (t : FileTree) (here : Location) (path : String) (l : Location) : Prop :=
  ∃ parent name directory, Path.split? path = some (parent, name) ∧
    t.openDirectory here parent = .ok directory ∧
    (∀ m, m <+: directory → t.get? m = some .directory) ∧
    directory <+: l ∧ l ≠ directory

/-- The name is a link, behind which steps come to a link to an absolute path or to a step out of
the directory. -/
def LeadsOut (t : FileTree) (directory : Location) (name : String) : Prop :=
  ∃ c, t.Passes (directory, [.name name]) c ∧ t.Strays directory c

variable {t u : FileTree} {here directory : Location} {path name text : String}

/-! ## Where files stand -/

theorem get?_of_prefix_directory {l m : Location} (hl : t.get? l = some .directory)
    (h : m <+: l) : t.get? m = some .directory := by
  by_cases hm : m = l
  · rw [hm, hl]
  · exact get?_of_prefix hl h hm

theorem isBeneath_of_leads {parent : String} {arrival : Arrival} {s : Spot} {e : Entry}
    (hhere : t.get? here = some .directory) (hsplit : Path.split? path = some (parent, name))
    (hopen : t.openDirectory here parent = .ok directory)
    (hleads : t.Leads (some directory) arrival mostLinks directory [.name name] s)
    (he : t.get? s.location = some e) (hdirectory : e ≠ .directory) :
    IsBeneath t here path s.location := by
  have hget := get?_of_openDirectory hhere hopen
  refine ⟨parent, name, directory, hsplit, hopen, fun m => get?_of_prefix_directory hget,
    hleads.beneath List.prefix_rfl, fun hsame => hdirectory ?_⟩
  rw [hsame, hget] at he
  cases he
  rfl

theorem Landing.isBeneath (landing : Landing t here path) {e : Entry}
    (hhere : t.get? here = some .directory) (hu : landing.made.Carries u)
    (hleads : u.Leads (some landing.directory) .make mostLinks landing.directory
      [.name landing.name] (.entry landing.spot.location e)) (hdirectory : e ≠ .directory) :
    IsBeneath u here path landing.spot.location := by
  have hhere' := hu _ _ (landing.grows.kept _ _ hhere) trivial
  have hopen := landing.openDirectory hhere hu
  have he := (hleads.get?_location (get?_of_openDirectory hhere' hopen)).1
  have hbeneath := isBeneath_of_leads hhere' landing.split_eq hopen hleads he hdirectory
  exact hbeneath

/-! ## Names that lead out -/

theorem resolveBeneath_of_leadsOut (arrival : Arrival) (harrival : arrival ≠ .stop)
    (h : LeadsOut t directory name) : Refused (t.resolveBeneath directory arrival name) := by
  obtain ⟨c, hpass, hstray⟩ := h
  unfold resolveBeneath
  split
  · exact refused_error (by decide)
  · exact refused_of_strays harrival hpass hstray mostLinks

section
variable {parent : String} (hsplit : Path.split? path = some (parent, name))
  (hopen : t.openDirectory here parent = .ok directory) (hout : LeadsOut t directory name)
include hsplit hopen hout

theorem write_of_leadsOut (text : String) :
    ∃ e, write t here path text = (.error (.io path e), t) := by
  obtain ⟨e, hresolve, -⟩ := resolveBeneath_of_leadsOut .make (by simp) hout
  refine ⟨e, ?_⟩
  simp only [write, split, hsplit, ensureDirectory_of_open hopen, writeBeneath, hresolve]

theorem read_of_leadsOut : ∃ e, read t here path = .error (.io path e) := by
  obtain ⟨e, hresolve, he⟩ := resolveBeneath_of_leadsOut .follow (by simp) hout
  exact ⟨e, by simp only [read, split, hsplit, hopen, readBeneath, hresolve, if_neg he]⟩

end

/-- A file that is written or read stands beneath the directory of its path, or what is there is a
device. Where the links behind the last name lead out, nothing is read and nothing changes. -/
theorem stays_beneath (t : FileTree) (here : Location) (path text : String)
    (hhere : t.get? here = some .directory) :
    (∀ written u, write t here path text = (.ok written, u) →
      ∃ l, IsBeneath u here path l ∧
        (t.SetsFile u l (Text.bytes text) ∧ locate u here path = some l ∨
          (∃ full, t.get? l = some (.sink full)) ∧ t.AddsDirectories u)) ∧
    (∀ x, read t here path = .ok (some x) →
      ∃ l, IsBeneath t here path l ∧
        (t.get? l = some (.file (Text.bytes x)) ∧ locate t here path = some l ∨
          (∃ full, t.get? l = some (.sink full)) ∧ x = "")) ∧
    ∀ parent name directory, Path.split? path = some (parent, name) →
      t.openDirectory here parent = .ok directory → LeadsOut t directory name →
      (∃ e, write t here path text = (.error (.io path e), t)) ∧
        ∃ e, read t here path = .error (.io path e) := by
  refine ⟨?_, ?_, ?_⟩
  · intro written u hwrite
    obtain ⟨-, landing, hbeneath⟩ := exists_landing hwrite
    refine ⟨landing.spot.location, ?_⟩
    rcases landing.setsFile_or_sink hhere hbeneath with hsets | ⟨⟨full, hspot, -⟩, rfl⟩
    · have hleads := landing.leads_of_setsFile hhere hsets
      exact ⟨landing.isBeneath hhere hsets.carries hleads (by simp),
        .inl ⟨landing.grows.setsFile hsets, landing.locate_of_setsFile hhere hsets⟩⟩
    · have hget := landing.get?_location hhere
      rw [hspot] at hget
      have hold := (landing.grows.origin hget).resolve_right (by simp)
      refine ⟨?_, .inr ⟨⟨full, hold⟩, landing.grows⟩⟩
      exact isBeneath_of_leads (landing.grows.kept _ _ hhere) landing.split_eq
        (openDirectory_of_ensure landing.ensure_eq) landing.leads hget (by simp)
  · intro x hread
    obtain ⟨parent, name, directory, hsplit, hopen, hbeneath⟩ := read_eq_some.mp hread
    obtain ⟨l, e, hresolve, hget, hfound⟩ :=
      readBeneath_eq_ok (get?_of_openDirectory hhere hopen) hbeneath
    have hdirectory : e ≠ .directory := by
      rcases hfound with rfl | ⟨⟨full, rfl⟩, -⟩ <;> simp
    refine ⟨l, isBeneath_of_leads hhere hsplit hopen (resolveBeneath_eq_ok_iff.mp hresolve).2 hget
      hdirectory, ?_⟩
    rcases hfound with rfl | ⟨⟨full, rfl⟩, rfl⟩
    · exact .inl ⟨hget, locate_eq_some_iff.mpr ⟨_, _, _, _, hsplit, hopen, hresolve⟩⟩
    · exact .inr ⟨⟨full, hget⟩, rfl⟩
  · intro parent name directory hsplit hopen hout
    exact ⟨write_of_leadsOut hsplit hopen hout text, read_of_leadsOut hsplit hopen hout⟩

def outwardLinks : FileTree :=
  FileTree.empty
    |>.put ["d"] .directory
    |>.put ["d", "f"] (.file (Text.bytes "old"))
    |>.put ["d", "back"] (.link "../d/f")
    |>.put ["d", "next"] (.link "root")
    |>.put ["d", "root"] (.link "/d/f")
    |>.put ["d", "new"] (.link "g")

/-- The links that come back are refused, at their first step and behind another link; the one that
stays makes its file in the directory. -/
theorem stays_beneath_outwardLinks :
    outwardLinks.get? [] = some .directory ∧
      (∃ e, write outwardLinks [] "d/back" "new" = (.error (.io "d/back" e), outwardLinks)) ∧
      (∃ e, read outwardLinks [] "d/next" = .error (.io "d/next" e)) ∧
      ∃ u, write outwardLinks [] "d/new" "new" = (.ok "d/new", u) ∧
        IsBeneath u [] "d/new" ["d", "g"] := by
  refine ⟨rfl, ?_, ?_, ?_⟩
  · have hout : LeadsOut outwardLinks ["d"] "back" := by
      have hget : outwardLinks.get? (["d"] ++ ["back"]) = some (.link "../d/f") := rfl
      have hsteps : Path.steps "../d/f" = [.up, .name "d", .name "f"] := rfl
      refine ⟨_, .single (.follow hget), ?_⟩
      rw [hsteps]
      exact .above
    obtain ⟨-, -, hrefused⟩ := stays_beneath outwardLinks [] "d/back" "new" rfl
    exact (hrefused "d" "back" ["d"] rfl rfl hout).1
  · have hout : LeadsOut outwardLinks ["d"] "next" := by
      have hnext : outwardLinks.get? (["d"] ++ ["next"]) = some (.link "root") := rfl
      have hroot : outwardLinks.get? (["d"] ++ ["root"]) = some (.link "/d/f") := rfl
      have hsteps : Path.steps "root" = [.name "root"] := rfl
      refine ⟨_, .single (.follow hnext), ?_⟩
      rw [hsteps]
      exact .absolute hroot (by decide)
    obtain ⟨-, -, hrefused⟩ := stays_beneath outwardLinks [] "d/next" "new" rfl
    exact (hrefused "d" "next" ["d"] rfl rfl hout).2
  · have hplain : outwardLinks.IsPlain :=
      (((((isPlain_empty.put (by simp) _).put (by simp) _).put (by simp) _).put (by simp) _).put
        (by simp) _).put (by simp) _
    have hresult : (write outwardLinks [] "d/new" "new").1 = .ok "d/new" := rfl
    have hlocate : locate (write outwardLinks [] "d/new" "new").2 [] "d/new" =
        some ["d", "g"] := rfl
    rcases hwrite : write outwardLinks [] "d/new" "new" with ⟨result, u⟩
    rw [hwrite] at hresult hlocate
    cases hresult
    obtain ⟨hlands, -, -⟩ := stays_beneath outwardLinks [] "d/new" "new" rfl
    obtain ⟨l, hl, ⟨-, hfound⟩ | ⟨⟨full, hsink⟩, -⟩⟩ := hlands _ u hwrite
    · cases hfound.symm.trans hlocate
      exact ⟨u, rfl, hl⟩
    · exact absurd hsink (hplain l full)

end Overloads.Output
