import Overloads.Proofs.Output.Landing

/-!
# Writing once more

Where a text was written, writing it again succeeds and changes nothing (`write_again`), and so
does writing a text that a file holds already (`write_of_read`). What is read after a write is the
text, unless a device took it (`read_of_write`).
-/

namespace Overloads.Output

open FileTree

variable {t u : FileTree} {here directory : Location} {path name text written : String}

theorem write_of_open {parent : String} (hsplit : Path.split? path = some (parent, name))
    (hopen : t.openDirectory here parent = .ok directory)
    (hwrite : writeBeneath t directory name text = .ok u) :
    write t here path text = (.ok path, u) := by
  simp only [write, split, hsplit, ensureDirectory_of_open hopen, hwrite]

theorem writeBeneath_of_leads {l : Location} (hnul : '\x00' ∉ name.toList)
    (hleads : t.Leads (some directory) .make mostLinks directory [.name name]
      (.entry l (.file (Text.bytes text))))
    (hl : t.get? l = some (.file (Text.bytes text))) :
    writeBeneath t directory name text = .ok t := by
  have hresolve := resolveBeneath_eq_ok_iff.mpr ⟨hnul, hleads⟩
  simp only [writeBeneath, hresolve, put_of_get? hl]

theorem carries_of_write (hhere : t.get? here = some .directory)
    (h : write t here path text = (.ok written, u)) :
    t.Carries u ∧ (t.IsPlain → u.IsPlain) := by
  obtain ⟨-, landing, hbeneath⟩ := exists_landing h
  rcases landing.setsFile_or_sink hhere hbeneath with hsets | ⟨-, rfl⟩
  · have hsets := landing.grows.setsFile hsets
    exact ⟨hsets.carries, hsets.isPlain⟩
  · exact ⟨landing.grows.carries, landing.grows.isPlain⟩

theorem write_again (hhere : t.get? here = some .directory)
    (h : write t here path text = (.ok written, u)) :
    write u here path text = (.ok written, u) := by
  obtain ⟨rfl, landing, hbeneath⟩ := exists_landing h
  rcases landing.setsFile_or_sink hhere hbeneath with hsets | ⟨-, rfl⟩
  · have hnul := (resolveBeneath_eq_ok_iff.mp landing.resolve_eq).1
    exact write_of_open landing.split_eq (landing.openDirectory hhere hsets.carries)
      (writeBeneath_of_leads hnul (landing.leads_of_setsFile hhere hsets) hsets.content_eq)
  · exact write_of_open landing.split_eq (openDirectory_of_ensure landing.ensure_eq) hbeneath

/-- A device that a write comes to is found by a reader too. -/
theorem Landing.follow_of_sink (landing : Landing t here path) {full : Bool}
    (hspot : landing.spot.entry? = some (.sink full)) :
    ∃ l, landing.made.resolveBeneath landing.directory .follow landing.name =
      .ok (.entry l (.sink full)) := by
  obtain ⟨hnul, hleads⟩ := resolveBeneath_eq_ok_iff.mp landing.resolve_eq
  have hfollow := resolveBeneath_eq_ok_iff.mpr ⟨hnul, hleads.follow_of_make⟩
  cases hfound : landing.spot with
  | free l => simp [hfound, Spot.entry?] at hspot
  | entry l e =>
    rw [hfound] at hspot hfollow
    cases hspot
    exact ⟨l, hfollow⟩

theorem Landing.locate_of_sink (landing : Landing t here path) {full : Bool}
    (hspot : landing.spot.entry? = some (.sink full)) : locate landing.made here path = none := by
  obtain ⟨l, hfollow⟩ := landing.follow_of_sink hspot
  have hopen := openDirectory_of_ensure landing.ensure_eq
  simp only [locate, landing.split_eq, hopen, hfollow]

theorem read_of_located_write (hhere : t.get? here = some .directory)
    (h : write t here path text = (.ok written, u)) {l : Location}
    (hl : locate u here path = some l) : read u here path = .ok (some text) := by
  obtain ⟨-, landing, hbeneath⟩ := exists_landing h
  rcases landing.setsFile_or_sink hhere hbeneath with hsets | ⟨⟨full, hspot, -⟩, rfl⟩
  · exact read_of_locate_eq (hsets.carries _ _ (landing.grows.kept _ _ hhere) trivial)
      (landing.locate_of_setsFile hhere hsets) hsets.content_eq
  · cases (landing.locate_of_sink hspot).symm.trans hl

/-- The text is not empty, for a full device takes the empty text, and reading it does not end. -/
theorem read_of_write (hhere : t.get? here = some .directory) (htext : text ≠ "")
    (h : write t here path text = (.ok written, u)) :
    read u here path = .ok (some (if (locate u here path).isSome then text else "")) := by
  cases hl : locate u here path with
  | some l => exact read_of_located_write hhere h hl
  | none =>
    obtain ⟨-, landing, hbeneath⟩ := exists_landing h
    rcases landing.setsFile_or_sink hhere hbeneath with hsets | ⟨⟨full, hspot, hempty⟩, rfl⟩
    · cases (landing.locate_of_setsFile hhere hsets).symm.trans hl
    · obtain ⟨l, hfollow⟩ := landing.follow_of_sink hspot
      have hopen := openDirectory_of_ensure landing.ensure_eq
      have hfull : ¬ full = true := fun hfull => htext (hempty hfull)
      exact read_eq_some.mpr ⟨_, _, _, landing.split_eq, hopen,
        by simp only [readBeneath, hfollow, if_neg hfull]; rfl⟩

theorem locate_of_write (hplain : t.IsPlain) (hhere : t.get? here = some .directory)
    (h : write t here path text = (.ok written, u)) : ∃ l, locate u here path = some l := by
  obtain ⟨-, landing, hbeneath⟩ := exists_landing h
  exact ⟨_, landing.locate_eq hhere hplain hbeneath⟩

theorem write_of_locate {l : Location} (h : locate t here path = some l) :
    write t here path text = (.ok path, t.put l (.file (Text.bytes text))) := by
  obtain ⟨parent, name, directory, content, hsplit, hopen, hresolve⟩ := locate_eq_some_iff.mp h
  obtain ⟨hnul, hleads⟩ := resolveBeneath_eq_ok_iff.mp hresolve
  have hmake := (hleads.make_of_follow rfl (fun hpass => hpass)).1
  have hresolve' := resolveBeneath_eq_ok_iff.mpr ⟨hnul, hmake⟩
  exact write_of_open hsplit hopen (by simp only [writeBeneath, hresolve'])

theorem write_of_read (hplain : t.IsPlain) (hhere : t.get? here = some .directory)
    (h : read t here path = .ok (some text)) : write t here path text = (.ok path, t) := by
  obtain ⟨l, hl, hfile⟩ := (read_eq_some_iff hplain hhere).mp h
  rw [write_of_locate hl, put_of_get? hfile]

theorem write_eq_self_iff (hplain : t.IsPlain) (hhere : t.get? here = some .directory) :
    write t here path text = (.ok path, t) ↔ read t here path = .ok (some text) := by
  constructor
  · intro h
    obtain ⟨l, hl⟩ := locate_of_write hplain hhere h
    exact read_of_located_write hhere h hl
  · exact write_of_read hplain hhere

end Overloads.Output
