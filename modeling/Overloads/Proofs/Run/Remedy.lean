import Overloads.Proofs.CommandLine.Words
import Overloads.Proofs.Run.Comparison
import Overloads.Proofs.Run.Repetition

/-!
# Doing what the message says

A run that finds its file out of date says how the program is to be called to bring it up to date
(`Fault.message_outOfDate`). Called that way it knows the file, but nothing else of the command line
that failed. So the file is up to date afterwards exactly if the other layers give the same pragmas
and do not ask for a comparison again (`remedy_works_iff`).
-/

namespace Overloads

/-- The words that follow the program's name where it says how to bring a file up to date. -/
def remedy (path : String) : List String := ["--out", path]

def remedyWords (path : String) : List ByteArray := (remedy path).map Text.bytes

theorem Fault.message_outOfDate (path : String) :
    (Fault.outOfDate path).message =
      path ++ " is out of date; rerun " ++ " ".intercalate (programName :: remedy path) := by
  have hout : " --out " = " " ++ "--out" ++ " " := rfl
  have hwords : " ".intercalate (programName :: remedy path) =
      programName ++ " --out " ++ path := by
    rw [remedy, String.intercalate_cons_cons, String.intercalate_cons_cons,
      String.intercalate_singleton, hout]
    simp only [String.append_assoc]
  rw [hwords]
  simp only [← String.append_assoc]
  rfl

namespace CommandLine

/-- The word begins with a dash and is more than that, so it is no value for an option. -/
def IsDashed (path : String) : Prop :=
  ∃ b bs, (Text.bytes path).data.toList = 45 :: b :: bs

theorem word_ne_plain {path : String} (h : IsDashed path) (value : ByteArray) :
    word (Text.bytes path) ≠ .plain value := by
  intro hword
  obtain ⟨-, hstands⟩ := word_eq_plain_iff.mp hword
  obtain ⟨b, bs, hbytes⟩ := h
  simp [hbytes] at hstands

theorem word_of_not_dashed {path : String} (h : ¬ IsDashed path) :
    word (Text.bytes path) = .plain (Text.bytes path) := by
  refine word_eq_plain_iff.mpr ⟨rfl, ?_⟩
  match hbytes : (Text.bytes path).data.toList with
  | [] => simp
  | [first] => simp [Decidable.em]
  | first :: b :: bs =>
    refine .inr fun hfirst => h ⟨b, bs, ?_⟩
    rw [hbytes, Option.some.inj hfirst]

theorem read_remedy_eq (path : String) :
    read (remedyWords path) =
      readWords { pending := some (.out, none) } [word (Text.bytes path)] := by
  have hout : word (Text.bytes "--out") = .option .out none := rfl
  simp only [read, remedyWords, remedy, List.map_cons, List.map_nil, hout]
  rfl

theorem read_remedy {path : String} (h : ¬ IsDashed path) :
    read (remedyWords path) = .ok { out := some path } := by
  rw [read_remedy_eq, word_of_not_dashed h]
  simp only [readWords, readWord, settle, enter, Text.ofBytes?_bytes, bind, Except.bind]
  rfl

theorem read_remedy_of_dashed {path : String} (h : IsDashed path) :
    ∃ e, read (remedyWords path) = .error e ∧ e ≠ .helpRequested ∧
      e ≠ .versionRequested := by
  rw [read_remedy_eq]
  cases hword : word (Text.bytes path) with
  | plain value => exact absurd hword (word_ne_plain h value)
  | terminator | help | version | valuedSwitch | unknown => exact ⟨_, rfl, by simp, by simp⟩
  | switch s => exact ⟨_, rfl, by simp, by simp⟩
  | option o value => cases value <;> exact ⟨_, rfl, by simp, by simp⟩

end CommandLine

theorem Settings.out_of_load {t : FileTree} {here : Location} {e : Environment} {c : CommandLine}
    {settings : Settings} {path : String} (h : load t here e c = .ok settings)
    (hout : c.out = some path) : settings.out = some path := by
  have hno : (lowerLayers t here e).2 = [] := by
    by_contra hne
    obtain ⟨es, hes, -⟩ := load_of_errors hne c
    cases h.symm.trans hes
  rw [load_of_no_errors hno] at h
  cases hdecode : decodeFields (Layer.cover (lowerFields t here e) c.layer) with
  | error error =>
    rw [hdecode] at h
    cases h
  | ok decoded =>
    rw [hdecode] at h
    cases h
    have hpath := (decodeFields_eq_ok_iff.mp hdecode).1
    rw [c.get?_cover, CommandLine.given?, hout] at hpath
    exact (Except.ok.inj hpath).symm

namespace Run

variable {s : Surroundings} {words : List ByteArray} {path : String}

theorem not_dashed_of_remedy {called : Option ByteArray}
    (hok : (run s called (remedyWords path)).result = .ok ()) :
    ¬ CommandLine.IsDashed path := by
  intro h
  obtain ⟨e, hread, hhelp, hversion⟩ := CommandLine.read_remedy_of_dashed h
  cases e <;> simp_all [run, refuse]

/-- Called as the message says, the program writes the file, with the settings that the layers
beneath the command line give with the path over them. -/
structure Rewrites (s : Surroundings) (path : String) (base : Settings) (u : FileTree) : Prop where
  not_dashed : ¬ CommandLine.IsDashed path
  load_eq : Settings.load s.tree s.here s.environment { out := some path } = .ok base
  filtered : ∃ f, Filter.read s.patterns base.logLevel = .ok f
  check_eq : base.check = false
  write_eq : Output.write s.tree s.here path (generatedText base.omitPragmas) = (.ok path, u)

theorem Rewrites.result_eq {base : Settings} {u : FileTree} (h : Rewrites s path base u)
    (called : Option ByteArray) :
    (run s called (remedyWords path)).result = .ok () ∧
      (run s called (remedyWords path)).tree = u := by
  obtain ⟨f, hfilter⟩ := h.filtered
  have hload : Loads s (remedyWords path) base :=
    ⟨_, CommandLine.read_remedy h.not_dashed, h.load_eq⟩
  have hout := Settings.out_of_load h.load_eq rfl
  have hmode := Settings.mode_eq_write_iff.mpr ⟨hout, h.check_eq⟩
  obtain ⟨hok, -, htree⟩ := result_of_write hload hfilter hmode h.write_eq called
  exact ⟨hok, htree⟩

theorem rewrites_of_result {called : Option ByteArray}
    (hok : (run s called (remedyWords path)).result = .ok ()) :
    (run s called (remedyWords path)).tree = s.tree ∨
      ∃ base, Rewrites s path base (run s called (remedyWords path)).tree := by
  have hdashed := not_dashed_of_remedy hok
  have hread := CommandLine.read_remedy hdashed
  obtain ⟨base, f, hload, hfilter⟩ := loads_of_result hread hok
  have hbase : Settings.load s.tree s.here s.environment { out := some path } = .ok base := by
    obtain ⟨c, hc, hbase⟩ := hload
    cases hread.symm.trans hc
    exact hbase
  have hout := Settings.out_of_load hbase rfl
  cases hcheck : base.check with
  | true =>
    have hmode := Settings.mode_eq_compare_iff.mpr ⟨hout, hcheck⟩
    exact .inl (leaves_of_compare hload hfilter hmode called).tree_eq
  | false =>
    have hmode := Settings.mode_eq_write_iff.mpr ⟨hout, hcheck⟩
    have hwrite := write_of_result hload hfilter hmode hok
    exact .inr ⟨base, hdashed, hbase, ⟨f, hfilter⟩, hcheck, hwrite⟩

/-- Where a run finds its file out of date, doing what the message says and running again succeeds
exactly if the file is written, with the pragmas of the run that failed, and no device takes the
text. This holds as long as what the settings are loaded from stays. -/
theorem remedy_works_iff (s : Surroundings) (called called' : Option ByteArray)
    (words : List ByteArray) (path : String) (hhere : s.tree.get? s.here = some .directory)
    (hfailed : (run s called words).result = .error (.fault (.outOfDate path))) :
    ∃ settings, Loads s words settings ∧
      let remedied := run s called' (remedyWords path)
      (∀ l, Settings.Consults s.tree s.here s.environment l →
          remedied.tree.get? l = s.tree.get? l) →
        (remedied.result = .ok () ∧ (run (s.after remedied) called words).result = .ok () ↔
          ∃ base u, Rewrites s path base u ∧ base.omitPragmas = settings.omitPragmas ∧
            ∃ l, Output.locate u s.here path = some l) := by
  obtain ⟨settings, f, hload, hfilter, hmode, -⟩ := compares_of_outOfDate hfailed
  refine ⟨settings, hload, ?_⟩
  intro remedied hsame
  have hagain := loads_after hhere hsame hload
  -- what running again says is decided by what the remedy wrote
  have hcompare : ∀ base, Rewrites s path base remedied.tree →
      ((run (s.after remedied) called words).result = .ok () ↔
        settings.omitPragmas = base.omitPragmas ∧
          ∃ l, Output.locate remedied.tree s.here path = some l) := by
    intro base hbase
    have hfound := Output.read_of_write hhere (generatedText_ne_empty _) hbase.write_eq
    rw [(result_of_compare hagain hfilter hmode hfound called).2.2.1, found_eq_generatedText_iff]
  constructor
  · rintro ⟨hok, hok'⟩
    rcases rewrites_of_result hok with htree | ⟨base, hbase⟩
    · rw [Surroundings.after_eq_self htree, hfailed] at hok'
      cases hok'
    · obtain ⟨homit, hlocate⟩ := (hcompare base hbase).mp hok'
      exact ⟨base, remedied.tree, hbase, homit.symm, hlocate⟩
  · rintro ⟨base, u, hbase, homit, hlocate⟩
    obtain ⟨hok, htree⟩ := hbase.result_eq called'
    rw [← htree] at hbase hlocate
    exact ⟨hok, (hcompare base hbase).mpr ⟨homit.symm, hlocate⟩⟩

theorem consults_empty {l : Location} (h : Settings.Consults .empty [] [] l) :
    l = ["etc"] ∨ l = [".memgen.toml"] := by
  have hsearched : SettingsFile.searched .empty [] (SettingsFile.places [] []).eraseDups =
      ["/etc/xdg/memgen/config.toml", "/etc/xdg/.memgen.toml", "/.memgen.toml"] := rfl
  obtain ⟨path, hpath, hl⟩ := h
  simp only [hsearched, List.mem_cons, List.not_mem_nil, or_false] at hpath
  rcases hpath with rfl | rfl | rfl
  · exact .inl (SettingsFile.eq_of_placeLooksAt rfl rfl rfl hl)
  · exact .inl (SettingsFile.eq_of_placeLooksAt rfl rfl rfl hl)
  · exact .inr (SettingsFile.eq_of_placeLooksAt rfl rfl rfl hl)

/-! ## Where nothing is -/

theorem fails_of_missing {settings : Settings} (hload : Loads emptySurroundings words settings)
    (hmode : settings.mode = .ok (.compare "h")) (hlevel : settings.logLevel = "warn") :
    (run emptySurroundings none words).result = .error (.fault (.outOfDate "h")) := by
  have hfilter := Filter.read_warn closedGroups
  rw [← hlevel] at hfilter
  have hread : Output.read .empty [] "h" = .ok none := rfl
  obtain ⟨-, -, hsame, hfailed⟩ := result_of_compare hload hfilter hmode hread none
  exact hfailed fun hok => nomatch hsame.mp hok

theorem exists_rewrites_missing :
    ∃ u, Rewrites emptySurroundings "h" { out := some "h" } u ∧
      (∃ l, Output.locate u [] "h" = some l) ∧
      u.get? ["etc"] = none ∧ u.get? [".memgen.toml"] = none := by
  have hdashed : ¬ CommandLine.IsDashed "h" := by
    rintro ⟨b, bs, hbytes⟩
    have hh : (Text.bytes "h").data.toList = [104] := rfl
    rw [hh] at hbytes
    cases hbytes
  have hresult : (Output.write .empty [] "h" (generatedText false)).1 = .ok "h" := rfl
  have hlocate : Output.locate (Output.write .empty [] "h" (generatedText false)).2 [] "h" =
      some ["h"] := rfl
  refine ⟨_, ⟨hdashed, rfl, ⟨_, Filter.read_warn _⟩, rfl, Prod.ext hresult rfl⟩, ⟨_, hlocate⟩, ?_⟩
  decide +kernel

theorem remedied_missing :
    let remedied := run emptySurroundings none (remedyWords "h")
    remedied.result = .ok () ∧
      Output.read remedied.tree [] "h" = .ok (some (generatedText false)) ∧
      ∀ l, Settings.Consults .empty [] [] l → remedied.tree.get? l = FileTree.empty.get? l := by
  obtain ⟨u, hrewrites, ⟨l, hlocate⟩, hshared, hfree⟩ := exists_rewrites_missing
  obtain ⟨hok, htree⟩ := hrewrites.result_eq none
  have hread : Output.read u [] "h" =
      .ok (some (if (Output.locate u [] "h").isSome then generatedText false else "")) :=
    Output.read_of_write rfl (generatedText_ne_empty _) hrewrites.write_eq
  rw [hlocate] at hread
  refine ⟨hok, by rwa [htree], fun l hl => ?_⟩
  rw [htree]
  rcases consults_empty hl with rfl | rfl
  · exact hshared
  · exact hfree

/-- The file that a comparison misses is written as the message says, and found then. -/
theorem remedy_works_missing :
    let words := ["--check", "--out", "h"].map Text.bytes
    let remedied := run emptySurroundings none (remedyWords "h")
    (run emptySurroundings none words).result = .error (.fault (.outOfDate "h")) ∧
      remedied.result = .ok () ∧
      (run (emptySurroundings.after remedied) none words).result = .ok () := by
  intro words remedied
  have hload : Loads emptySurroundings words { out := some "h", check := true } :=
    ⟨_, rfl, rfl⟩
  have hfailed := fails_of_missing hload rfl rfl
  obtain ⟨u, hrewrites, hlocate, -⟩ := exists_rewrites_missing
  obtain ⟨settings, hsettings, hworks⟩ :=
    remedy_works_iff emptySurroundings none none words "h" rfl hfailed
  obtain rfl := hload.eq hsettings
  exact ⟨hfailed, (hworks remedied_missing.2.2).mpr ⟨_, u, hrewrites, rfl, hlocate⟩⟩

/-- The message says nothing of the pragmas: where a run that leaves them out misses its file, doing
what the message says gives a file with pragmas, and the run fails as before. -/
theorem remedy_drops_pragmas :
    let words := ["--check", "--omit-pragmas", "--out", "h"].map Text.bytes
    let remedied := run emptySurroundings none (remedyWords "h")
    (run emptySurroundings none words).result = .error (.fault (.outOfDate "h")) ∧
      remedied.result = .ok () ∧
      (run (emptySurroundings.after remedied) none words).result =
        .error (.fault (.outOfDate "h")) := by
  intro words remedied
  have hload : Loads emptySurroundings words
      { out := some "h", check := true, omitPragmas := true } :=
    ⟨_, rfl, rfl⟩
  obtain ⟨hok, hfound, hkept⟩ := remedied_missing
  have hagain : Loads (emptySurroundings.after remedied) words _ := loads_after rfl hkept hload
  rw [← Surroundings.after_tree emptySurroundings] at hfound
  obtain ⟨-, -, hsame, hfailed⟩ := result_of_compare hagain (Filter.read_warn _) rfl hfound none
  refine ⟨fails_of_missing hload rfl rfl, hok, hfailed fun hagree => ?_⟩
  cases generatedText_inj (Option.some.inj (hsame.mp hagree))

end Run

end Overloads
