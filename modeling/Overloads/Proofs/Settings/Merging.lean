import Overloads.Proofs.Settings.StoredForm
import Overloads.Settings.Load

/-!
# The last layer to say something counts

Layers of plain values are merged into the settings of one object, which holds under each name
what the last layer that mentions the name says of it (`merge_last_said`). Nothing else about the
layers matters: neither their sources, nor what other layers said before, nor defaults beneath
them all.
-/

namespace Overloads

namespace Fields
variable {α : Type}

theorem map_fst_put (name : String) (x : α) : ∀ fs : Fields α,
    (fs.put name x).map Prod.fst =
      if name ∈ fs.map Prod.fst then fs.map Prod.fst else fs.map Prod.fst ++ [name]
  | [] => rfl
  | (k, v) :: fs => by
    by_cases hk : k = name
    · simp [put, hk]
    · have ih := map_fst_put name x fs
      have hname : name ≠ k := Ne.symm hk
      rw [put, if_neg hk, List.map_cons, ih, List.map_cons]
      by_cases hmem : name ∈ fs.map Prod.fst
      · rw [if_pos hmem, if_pos (List.mem_cons_of_mem _ hmem)]
      · rw [if_neg hmem, if_neg (by simpa [hname] using hmem), List.cons_append]

theorem nodup_put {fs : Fields α} (h : (fs.map Prod.fst).Nodup) (name : String) (x : α) :
    ((fs.put name x).map Prod.fst).Nodup := by
  rw [map_fst_put]
  split
  · exact h
  · next hmem =>
    refine List.nodup_append.mpr ⟨h, by simp, ?_⟩
    intro other hother new hnew
    rw [List.mem_singleton.mp hnew]
    intro hsame
    exact hmem (hsame ▸ hother)

end Fields

theorem Value.nodup_overlayFields : ∀ (gs fs : Fields Value), (fs.map Prod.fst).Nodup →
    ((overlayFields fs gs).map Prod.fst).Nodup
  | [], _, h => h
  | (k, v) :: gs, fs, h => by
    rw [overlayFields]
    exact nodup_overlayFields gs _ (Fields.nodup_put h _ _)

namespace Layer

/-- A layer of fields none of which holds fields of its own. -/
def IsFlat (l : Layer) : Prop := l.HasFields ∧ ∀ p ∈ l.value.fields, ¬ p.2.IsObject

/-- What a layer says of a name; where it says several things, the last of them. -/
def says? (l : Layer) (name : String) : Option Value := Fields.get? l.value.fields.reverse name

def lastSaid? : List Layer → String → Option Value
  | [], _ => none
  | l :: ls, name => (lastSaid? ls name).or (l.says? name)

/-- All layers are flat, and not all are empty. -/
structure Mergeable (ls : List Layer) : Prop where
  flat : ∀ l ∈ ls, l.IsFlat
  some_fields : ∃ l ∈ ls, l.value.fields ≠ []

variable {l l' m : Layer} {ls ls' as bs : List Layer} {fs : Fields Value} {name : String}

/-! ## What was said last -/

theorem lastSaid?_append (name : String) : ∀ as bs : List Layer,
    lastSaid? (as ++ bs) name = (lastSaid? bs name).or (lastSaid? as name)
  | [], bs => by simp [lastSaid?]
  | l :: as, bs => by
    rw [List.cons_append, lastSaid?, lastSaid?_append name as bs, lastSaid?, Option.or_assoc]

theorem lastSaid?_middle (name : String) (as : List Layer) (l : Layer) (bs : List Layer) :
    lastSaid? (as ++ l :: bs) name =
      ((lastSaid? bs name).or (l.says? name)).or (lastSaid? as name) := by
  rw [lastSaid?_append, lastSaid?]

theorem lastSaid?_eq_none_iff : ∀ {ls : List Layer},
    lastSaid? ls name = none ↔ ∀ l ∈ ls, l.says? name = none
  | [] => by simp [lastSaid?]
  | l :: ls => by
    rw [lastSaid?, Option.or_eq_none_iff, lastSaid?_eq_none_iff, List.forall_mem_cons, and_comm]

theorem exists_of_lastSaid? {v : Value} : ∀ {ls : List Layer}, lastSaid? ls name = some v →
    ∃ as l bs, ls = as ++ l :: bs ∧ l.says? name = some v ∧ lastSaid? bs name = none
  | l :: ls, h => by
    rw [lastSaid?] at h
    cases hlast : lastSaid? ls name with
    | none =>
      rw [hlast, Option.none_or] at h
      exact ⟨[], l, ls, rfl, h, hlast⟩
    | some w =>
      rw [hlast, Option.some_or] at h
      cases h
      obtain ⟨as, m, bs, rfl, hm, hbs⟩ := exists_of_lastSaid? hlast
      exact ⟨l :: as, m, bs, rfl, hm, hbs⟩

theorem lastSaid?_of_values (name : String) : ∀ {ls ls' : List Layer},
    ls'.map Layer.value = ls.map Layer.value → lastSaid? ls' name = lastSaid? ls name
  | [], [], _ => rfl
  | l :: ls, l' :: ls', h => by
    obtain ⟨hvalue, hrest⟩ := List.cons.inj h
    rw [lastSaid?, lastSaid?, lastSaid?_of_values name hrest, says?, says?, hvalue]

theorem fields_ne_nil_of_says? {v : Value} (h : l.says? name = some v) : l.value.fields ≠ [] := by
  intro hnil
  rw [says?, hnil] at h
  cases h

/-! ## One object for all layers -/

theorem get?_foldl_cover (name : String) : ∀ (ls : List Layer) (fs : Fields Value),
    (∀ l ∈ ls, l.IsFlat) → (ls.foldl cover fs).get? name = (lastSaid? ls name).or (fs.get? name)
  | [], fs, _ => by simp [lastSaid?]
  | l :: ls, fs, h => by
    obtain ⟨hl, hls⟩ := List.forall_mem_cons.mp h
    have hcover : (cover fs l).get? name = (l.says? name).or (fs.get? name) :=
      Value.get?_overlayFields name fs hl.2
    rw [List.foldl_cons, get?_foldl_cover name ls _ hls, hcover, lastSaid?, Option.or_assoc]

theorem nodup_foldl_cover : ∀ (ls : List Layer) (fs : Fields Value), (fs.map Prod.fst).Nodup →
    ((ls.foldl cover fs).map Prod.fst).Nodup
  | [], _, h => h
  | l :: ls, _, h => nodup_foldl_cover ls _ (Value.nodup_overlayFields l.value.fields _ h)

theorem pile_null : ∀ {ls : List Layer}, (∀ l ∈ ls, l.HasFields) →
    (∃ l ∈ ls, l.value.fields ≠ []) → pile .null ls = .ok (.object (ls.foldl cover []))
  | l :: ls, h, hsome => by
    obtain ⟨⟨gs, hgs⟩, hls⟩ := List.forall_mem_cons.mp h
    by_cases hempty : gs = []
    · subst hempty
      have hrest : ∃ l ∈ ls, l.value.fields ≠ [] := by
        obtain ⟨m, hm, hfields⟩ := hsome
        rcases List.mem_cons.mp hm with rfl | hm
        · rw [hgs] at hfields
          exact absurd rfl hfields
        · exact ⟨m, hm, hfields⟩
      have hcover : cover [] l = [] := by simp only [cover, hgs, Value.fields, Value.overlayFields]
      rw [List.foldl_cons, hcover, ← pile_null hls hrest]
      simp only [pile, hgs]
    · rw [pile_cons_object .null hgs hempty, pile_objects ls _ hls, List.foldl_cons, cover, hgs]
      rfl

theorem merge_of_pile (h : pile .null ls = .ok (.object fs)) :
    merge ls = (Settings.decodeFields fs).mapError .decoding := by
  simp only [merge, h, bind, Except.bind, Settings.decode]
  cases Settings.decodeFields fs <;> rfl

/-- The value that the last layer to say anything of a field gives it, or else the default. -/
def settled (ls : List Layer) (f : Settings.Field) : Value :=
  (lastSaid? ls f.name).getD (Settings.stored {} f)

theorem merge_eq (h : Mergeable ls) (hfs : ∀ f, Settings.valueIn fs f = settled ls f) :
    merge ls = (Settings.decodeFields fs).mapError .decoding := by
  rw [merge_of_pile (pile_null (fun l hl => (h.flat l hl).1) h.some_fields)]
  refine congrArg _ (Settings.decodeFields_congr fun f => ?_)
  rw [hfs, Settings.valueIn, get?_foldl_cover f.name ls [] h.flat, settled, Fields.get?,
    Option.or_none]

theorem exists_object (h : Mergeable ls) : ∃ fs : Fields Value,
    (fs.map Prod.fst).Nodup ∧ ∀ name, fs.get? name = lastSaid? ls name := by
  refine ⟨ls.foldl cover [], nodup_foldl_cover ls [] .nil, fun name => ?_⟩
  rw [get?_foldl_cover name ls [] h.flat, Fields.get?, Option.or_none]

theorem valueIn_eq_settled (hfs : ∀ name, fs.get? name = lastSaid? ls name)
    (f : Settings.Field) : Settings.valueIn fs f = settled ls f := by
  rw [Settings.valueIn, hfs, settled]

theorem mapError_eq_ok_iff {α : Type} {x : Except DecodeError α} {g : DecodeError → MergeError}
    {a : α} : x.mapError g = .ok a ↔ x = .ok a := by
  cases x with
  | error e => constructor <;> intro h <;> cases h
  | ok b => constructor <;> intro h <;> cases h <;> rfl

theorem merge_congr (h : Mergeable ls) (h' : Mergeable ls')
    (hsame : ∀ f, settled ls' f = settled ls f) : merge ls' = merge ls := by
  obtain ⟨fs, -, hfs⟩ := exists_object h
  have hvalues := valueIn_eq_settled hfs
  rw [merge_eq h hvalues, merge_eq h' fun f => (hvalues f).trans (hsame f).symm]

theorem merge_eq_ok_iff (h : Mergeable ls) {s : Settings} :
    merge ls = .ok s ↔ ∀ f, settled ls f = s.stored f := by
  obtain ⟨fs, -, hfs⟩ := exists_object h
  have hvalues := valueIn_eq_settled hfs
  rw [merge_eq h hvalues, mapError_eq_ok_iff, Settings.decodeFields_eq_ok_iff_stored]
  exact forall_congr' fun f => by rw [hvalues]

theorem exists_merge_iff (h : Mergeable ls) :
    (∃ s, merge ls = .ok s) ↔
      ∀ (f : Settings.Field) v, lastSaid? ls f.name = some v → f.takes v = true := by
  obtain ⟨fs, -, hfs⟩ := exists_object h
  simp only [merge_eq h (valueIn_eq_settled hfs), mapError_eq_ok_iff]
  rw [Settings.exists_decodeFields_iff]
  refine forall_congr' fun f => ?_
  rw [Settings.illTyped, hfs]
  cases lastSaid? ls f.name <;> simp

/-! ## What makes no difference -/

theorem Mergeable.of_mem (h : Mergeable ls) (hmem : ∀ l, l ∈ ls' ↔ l ∈ ls) : Mergeable ls' where
  flat l hl := h.flat l ((hmem l).mp hl)
  some_fields := by
    obtain ⟨l, hl, hfields⟩ := h.some_fields
    exact ⟨l, (hmem l).mpr hl, hfields⟩

theorem settled_congr (h : ∀ name, lastSaid? ls' name = lastSaid? ls name) (f : Settings.Field) :
    settled ls' f = settled ls f := by
  rw [settled, h, settled]

theorem merge_of_values (h : Mergeable ls) (hvalues : ls'.map Layer.value = ls.map Layer.value) :
    merge ls' = merge ls := by
  have hvalue : ∀ l ∈ ls', ∃ m ∈ ls, m.value = l.value := fun l hl =>
    List.mem_map.mp (hvalues ▸ List.mem_map_of_mem hl)
  refine merge_congr h ⟨?_, ?_⟩ (settled_congr fun name => lastSaid?_of_values name hvalues)
  · intro l hl
    obtain ⟨m, hm, hsame⟩ := hvalue l hl
    have hflat := h.flat m hm
    unfold IsFlat HasFields at hflat ⊢
    rwa [← hsame]
  · obtain ⟨l, hl, hfields⟩ := h.some_fields
    obtain ⟨m, hm, hsame⟩ := List.mem_map.mp (hvalues ▸ List.mem_map_of_mem hl)
    exact ⟨m, hm, by rwa [hsame]⟩

theorem merge_repeated (h : Mergeable (as ++ l :: bs)) :
    merge (as ++ l :: l :: bs) = merge (as ++ l :: bs) := by
  refine merge_congr h (h.of_mem fun m => by simp) (settled_congr fun name => ?_)
  have htwice : (lastSaid? (l :: bs) name).or (l.says? name) = lastSaid? (l :: bs) name := by
    rw [lastSaid?, Option.or_assoc, Option.or_self]
  rw [lastSaid?_middle, htwice, lastSaid?_append]

theorem merge_swapped (h : Mergeable (as ++ l :: m :: bs))
    (hdisjoint : ∀ name, l.says? name = none ∨ m.says? name = none) :
    merge (as ++ m :: l :: bs) = merge (as ++ l :: m :: bs) := by
  refine merge_congr h (h.of_mem fun k => ?_) (settled_congr fun name => ?_)
  · simp only [List.mem_append, List.mem_cons]
    rw [or_left_comm (b := k = l)]
  · rw [lastSaid?_middle, lastSaid?_middle, lastSaid?, lastSaid?]
    rcases hdisjoint name with hnone | hnone <;> simp [hnone]

/-- What a layer says of a name makes no difference if a later layer mentions that name. -/
theorem merge_overruled {w : Value} (h : Mergeable (as ++ l :: bs))
    (hlater : ∃ m ∈ bs, m.says? name = some w) (hflat : l'.IsFlat)
    (hothers : ∀ other, other ≠ name → l'.says? other = l.says? other) :
    merge (as ++ l' :: bs) = merge (as ++ l :: bs) := by
  obtain ⟨m, hm, hsays⟩ := hlater
  have hmergeable : Mergeable (as ++ l' :: bs) := by
    refine ⟨fun k hk => ?_, m, by simp [hm], fields_ne_nil_of_says? hsays⟩
    rcases List.mem_append.mp hk with hk | hk
    · exact h.flat k (by simp [hk])
    · rcases List.mem_cons.mp hk with rfl | hk
      · exact hflat
      · exact h.flat k (by simp [hk])
  refine merge_congr h hmergeable (settled_congr fun other => ?_)
  rw [lastSaid?_middle, lastSaid?_middle]
  by_cases hother : other = name
  · subst hother
    cases hlast : lastSaid? bs other with
    | none => cases (lastSaid?_eq_none_iff.mp hlast m hm).symm.trans hsays
    | some v => simp
  · rw [hothers other hother]

theorem isFlat_defaultLayer : Settings.defaultLayer.IsFlat :=
  ⟨⟨_, rfl⟩, by simp [Settings.defaultLayer, Value.fields, Value.IsObject]⟩

theorem merge_defaults (h : Mergeable ls) : merge (Settings.defaultLayer :: ls) = merge ls := by
  have hflat : ∀ l ∈ Settings.defaultLayer :: ls, l.IsFlat :=
    List.forall_mem_cons.mpr ⟨isFlat_defaultLayer, h.flat⟩
  obtain ⟨m, hm, hfields⟩ := h.some_fields
  refine merge_congr h ⟨hflat, m, List.mem_cons_of_mem _ hm, hfields⟩ fun f => ?_
  have hdefault : (Settings.defaultLayer.says? f.name).getD (Settings.stored {} f) =
      Settings.stored {} f := by
    cases f <;> rfl
  rw [settled, lastSaid?, settled]
  cases lastSaid? ls f.name with
  | none => exact hdefault
  | some v => rfl

/-! ## Values that do harm -/

theorem exists_merge_iff_overruled (h : Mergeable ls) :
    (∃ s, merge ls = .ok s) ↔
      ∀ as l bs (f : Settings.Field) v, ls = as ++ l :: bs → l.says? f.name = some v →
        f.takes v = false → ∃ m ∈ bs, ∃ w, m.says? f.name = some w := by
  rw [exists_merge_iff h]
  constructor
  · intro htakes as l bs f v hls hsays hv
    cases hbs : lastSaid? bs f.name with
    | none =>
      have hlast : lastSaid? ls f.name = some v := by
        rw [hls, lastSaid?_middle, hbs, Option.none_or, hsays, Option.some_or]
      cases (htakes f v hlast).symm.trans hv
    | some w =>
      obtain ⟨_, m, _, rfl, hm, -⟩ := exists_of_lastSaid? hbs
      exact ⟨m, by simp, w, hm⟩
  · intro hoverruled f v hlast
    obtain ⟨as, l, bs, hls, hsays, hbs⟩ := exists_of_lastSaid? hlast
    cases hv : f.takes v with
    | true => rfl
    | false =>
      obtain ⟨m, hm, w, hw⟩ := hoverruled as l bs f v hls hsays hv
      cases (lastSaid?_eq_none_iff.mp hbs m hm).symm.trans hw

/-- Layers are merged into what can be read of the object that has under each name what was said
of it last. So fields that no layer mentions have their defaults, as they have where the defaults
are a layer of their own; it does not matter if a layer stands there twice, nor which of two layers
comes first that mention no name in common; and a value of a wrong type does harm exactly as long as
no later layer mentions its name. -/
theorem merge_last_said {ls : List Layer} (h : Mergeable ls) :
    ((∃ fs : Fields Value, (fs.map Prod.fst).Nodup ∧ ∀ name, fs.get? name = lastSaid? ls name) ∧
      ∀ fs : Fields Value, (∀ name, fs.get? name = lastSaid? ls name) →
        merge ls = (Settings.decode (.object fs)).mapError .decoding ∧
        (merge ls).mapError MergeError.message = (Settings.decode (.object fs)).mapError fun e =>
          "Failed to merge CLI with configuration: " ++ e.message) ∧
    (∀ ls', ls'.map Layer.value = ls.map Layer.value → merge ls' = merge ls) ∧
    (∀ s, merge ls = .ok s → ∀ f : Settings.Field, lastSaid? ls f.name = none →
      s.stored f = Settings.stored {} f) ∧
    (merge (Settings.defaultLayer :: ls) = merge ls ∧ merge [Settings.defaultLayer] = .ok {} ∧
      Settings.decode (.object []) = .ok {}) ∧
    (∀ as l bs, ls = as ++ l :: bs → merge (as ++ l :: l :: bs) = merge ls) ∧
    (∀ as l m bs, ls = as ++ l :: m :: bs →
      (∀ name, l.says? name = none ∨ m.says? name = none) →
        merge (as ++ m :: l :: bs) = merge ls) ∧
    ((∃ s, merge ls = .ok s) ↔
      ∀ as l bs (f : Settings.Field) v, ls = as ++ l :: bs → l.says? f.name = some v →
        f.takes v = false → ∃ m ∈ bs, ∃ w, m.says? f.name = some w) ∧
    ∀ as l bs name m w l', ls = as ++ l :: bs → m ∈ bs → m.says? name = some w → l'.IsFlat →
      (∀ other, other ≠ name → l'.says? other = l.says? other) →
        merge (as ++ l' :: bs) = merge ls := by
  refine ⟨⟨exists_object h, ?_⟩, fun ls' => merge_of_values h, ?_, ⟨merge_defaults h, rfl, rfl⟩,
    ?_, ?_, exists_merge_iff_overruled h, ?_⟩
  · intro fs hfs
    have hmerge := merge_eq h (valueIn_eq_settled hfs)
    refine ⟨hmerge, ?_⟩
    rw [hmerge, Settings.decode]
    cases Settings.decodeFields fs <;> rfl
  · intro s hs f hnone
    rw [← (merge_eq_ok_iff h).mp hs f, settled, hnone, Option.getD_none]
  · rintro as l bs rfl
    exact merge_repeated h
  · rintro as l m bs rfl hdisjoint
    exact merge_swapped h hdisjoint
  · rintro as l bs name m w l' rfl hm hsays hflat hothers
    exact merge_overruled h ⟨m, hm, hsays⟩ hflat hothers

def nullCheck : Layer := ⟨.file none, .object [("check", .null), ("color", .string "red")]⟩

def trueCheck : Layer := ⟨.environment, .object [("check", .bool true)]⟩

theorem mergeable_nullCheck (ls : List Layer) (h : ∀ l ∈ ls, l = nullCheck ∨ l = trueCheck)
    (hne : ls ≠ []) : Mergeable ls := by
  have hflat : nullCheck.IsFlat ∧ trueCheck.IsFlat := by
    refine ⟨⟨⟨_, rfl⟩, ?_⟩, ⟨_, rfl⟩, ?_⟩ <;>
      simp [nullCheck, trueCheck, Value.fields, Value.IsObject]
  obtain ⟨l, rest, rfl⟩ := List.exists_cons_of_ne_nil hne
  refine ⟨fun m hm => ?_, l, by simp, ?_⟩
  · rcases h m hm with rfl | rfl
    · exact hflat.1
    · exact hflat.2
  · rcases h l (by simp) with rfl | rfl <;> simp [nullCheck, trueCheck, Value.fields]

/-- What is no truth value does no harm beneath one, also twice, but it does above it. -/
theorem merge_last_said_nullCheck :
    merge [nullCheck, trueCheck] = .ok { check := true } ∧
      merge [nullCheck, nullCheck, trueCheck] = .ok { check := true } ∧
      ¬ ∃ s, merge [trueCheck, nullCheck] = .ok s := by
  have hbeneath : Mergeable [nullCheck, trueCheck] := mergeable_nullCheck _ (by simp) (by simp)
  have habove : Mergeable [trueCheck, nullCheck] := mergeable_nullCheck _ (by simp) (by simp)
  obtain ⟨⟨-, hobject⟩, -, -, -, hrepeated, -⟩ := merge_last_said hbeneath
  have hsaid : ∀ name,
      Fields.get? [("check", .bool true), ("color", .string "red")] name =
        lastSaid? [nullCheck, trueCheck] name := by
    intro name
    by_cases hcheck : "check" = name
    · subst hcheck
      rfl
    · by_cases hcolor : "color" = name
      · subst hcolor
        rfl
      · simp [lastSaid?, says?, nullCheck, trueCheck, Value.fields, Fields.get?, hcheck, hcolor]
  have hok : merge [nullCheck, trueCheck] = .ok { check := true } := (hobject _ hsaid).1
  obtain ⟨-, -, -, -, -, -, hharm, -⟩ := merge_last_said habove
  refine ⟨hok, (hrepeated [] nullCheck [trueCheck] rfl).trans hok, fun hexists => ?_⟩
  obtain ⟨m, hm, -⟩ := hharm.mp hexists [trueCheck] nullCheck [] .check .null rfl rfl rfl
  cases hm

end Layer

end Overloads
