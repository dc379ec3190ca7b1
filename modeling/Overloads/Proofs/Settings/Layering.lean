import Overloads.Settings.Load

/-!
# Objects laid over one another

Every layer is an object, so layers are laid over one another field by field
(`Layer.pile_objects`). What a name stands for in the end is what the last
layer says about it, as long as no layer nests objects (`get?_overlayFields`).
-/

namespace Overloads

theorem Fields.get?_append {α : Type} (name : String) : ∀ fs gs : Fields α,
    get? (fs ++ gs) name = (get? fs name).or (get? gs name)
  | [], gs => by simp [get?]
  | (k, v) :: fs, gs => by
    by_cases hk : k = name
    · simp [get?, hk]
    · simp [get?, hk, get?_append name fs gs]

namespace Value

def IsObject (v : Value) : Prop := ∃ fs, v = .object fs

theorem overlay_of_not_isObject (base : Value) : ∀ {v : Value}, ¬ v.IsObject → overlay base v = v
  | .object fs, h => absurd ⟨fs, rfl⟩ h
  | .null, _ | .bool _, _ | .integer _, _ | .float _, _ | .string _, _ | .array _, _ => by
    simp only [overlay]

theorem get?_overlayFields (name : String) : ∀ {gs : Fields Value} (fs : Fields Value),
    (∀ p ∈ gs, ¬ p.2.IsObject) →
      Fields.get? (overlayFields fs gs) name = (Fields.get? gs.reverse name).or (fs.get? name)
  | [], fs, _ => by simp [overlayFields, Fields.get?]
  | (k, v) :: gs, fs, h => by
    have hv : ∀ base, overlay base v = v := fun base =>
      overlay_of_not_isObject base (h (k, v) (by simp))
    have hput : overlayFields fs ((k, v) :: gs) = overlayFields (fs.put k v) gs := by
      cases hold : fs.get? k <;> simp only [overlayFields, hold, hv]
    rw [hput, get?_overlayFields name _ fun p hp => h p (by simp [hp]),
      Fields.get?_put, List.reverse_cons, Fields.get?_append]
    by_cases hk : k = name <;> simp [Fields.get?, hk]

end Value

/-! ## Piles of objects -/

namespace Layer

def HasFields (l : Layer) : Prop := l.value.IsObject

def cover (fs : Fields Value) (l : Layer) : Fields Value := Value.overlayFields fs l.value.fields

theorem pile_cons_object (base : Value) {l : Layer} {fs : Fields Value} (h : l.value = .object fs)
    (hfs : fs ≠ []) (ls : List Layer) :
    pile base (l :: ls) = pile (.object (Value.overlayFields base.fields fs)) ls := by
  cases fs with
  | nil => exact absurd rfl hfs
  | cons f fs => simp only [pile, h, Value.overlay]

theorem pile_objects : ∀ (ls : List Layer) (fs : Fields Value), (∀ l ∈ ls, l.HasFields) →
    pile (.object fs) ls = .ok (.object (ls.foldl cover fs))
  | [], _, _ => rfl
  | l :: ls, fs, h => by
    obtain ⟨gs, hgs⟩ := h l (by simp)
    have ih := fun fs' => pile_objects ls fs' fun l' hl' => h l' (by simp [hl'])
    cases gs with
    | nil => simp only [pile, hgs, ih, List.foldl_cons, cover, Value.fields, Value.overlayFields]
    | cons g gs =>
      rw [pile_cons_object _ hgs (by simp), ih, List.foldl_cons, cover, hgs]
      rfl

end Layer

/-! ## The layers of files -/

def LoadError.isOfFiles : LoadError → Bool
  | .merge _ => false
  | .file .. | .cycle _ => true

namespace SettingsFile

/-- Whatever is read has the property, and every error is about files. -/
def Reads {α : Type} (P : α → Prop) : Except LoadError α → Prop
  | .ok a => P a
  | .error e => e.isOfFiles = true

theorem Reads.bind {α β : Type} {P : α → Prop} {Q : β → Prop} {x : Except LoadError α}
    {f : α → Except LoadError β} (h : Reads P x) (hf : ∀ a, P a → Reads Q (f a)) :
    Reads Q (x >>= f) := by
  cases x with
  | ok a => exact hf a h
  | error e => exact h

theorem reads_mapError {α : Type} (path : String) (x : Except FileError α) :
    Reads (fun _ => True) (x.mapError (.file path)) := by
  cases x <;> trivial

theorem reads_follow (t : FileTree) (file : Location) (path : String) :
    Reads (fun _ => True) (follow t file path) := by
  simp only [follow]
  split <;> trivial

theorem hasFields_layer (path : String) (fs : Fields Toml.Value) : (layer path fs).HasFields :=
  ⟨_, by rw [layer, Toml.Value.plain]⟩

theorem reads_chain (t : FileTree) (others before : List Location) (file : Location)
    (content : ByteArray) :
    Reads (fun ls => ∀ l ∈ ls, l.HasFields) (chain t others before file content) := by
  unfold chain
  split
  · next hmem =>
    have : (others.erase file).length < others.length := by
      have := List.length_pos_of_mem hmem
      rw [List.length_erase_of_mem hmem]
      omega
    refine (reads_mapError _ _).bind fun fs _ => (reads_mapError _ _).bind fun extended _ => ?_
    cases extended with
    | none =>
      intro l hl
      obtain rfl := List.mem_singleton.mp hl
      exact hasFields_layer _ _
    | some path =>
      refine (reads_follow t file path).bind fun target _ => ?_
      refine (reads_chain t (others.erase file) (file :: before) _ _).bind fun below hbelow => ?_
      intro l hl
      rcases List.mem_append.mp hl with hl | hl
      · exact hbelow l hl
      · obtain rfl := List.mem_singleton.mp hl
        exact hasFields_layer _ _
  · trivial
termination_by others.length

theorem reads_layers? {t : FileTree} {here : Location} {path : String}
    {read : Except LoadError (List Layer)} (h : layers? t here path = some read) :
    Reads (fun ls => ∀ l ∈ ls, l.HasFields) read := by
  unfold layers? at h
  split at h <;> cases h
  exact reads_chain t _ _ _ _

theorem firstOf_spec (t : FileTree) (here : Location) :
    ∀ (paths : List String) (errors : List LoadError), (∀ e ∈ errors, e.isOfFiles = true) →
      (∀ l ∈ (firstOf t here paths errors).1, l.HasFields) ∧
        ∀ e ∈ (firstOf t here paths errors).2, e.isOfFiles = true
  | [], errors, h => ⟨by simp [firstOf], h⟩
  | path :: paths, errors, h => by
    rw [firstOf]
    split
    · exact firstOf_spec t here paths errors h
    · next ls hread =>
      have := reads_layers? hread
      exact ⟨this, by simp⟩
    · next e hread =>
      have := reads_layers? hread
      exact firstOf_spec t here paths _ fun e' he' => by
        rcases List.mem_append.mp he' with he' | he'
        · exact h e' he'
        · obtain rfl := List.mem_singleton.mp he'
          exact this

end SettingsFile

/-! ## All layers -/

namespace Environment

theorem nestedNames_ne_nil (cs : List Char) : nestedNames cs ≠ [] := by
  fun_cases nestedNames cs <;> simp [*]

theorem fieldNames?_ne_nil {name : String} {names : List String}
    (h : fieldNames? name = some names) : names ≠ [] := by
  simp only [fieldNames?] at h
  split at h
  · split at h <;> cases h
    simpa using nestedNames_ne_nil _
  · cases h

theorem hasFields_layer (e : Environment) : (layer e).HasFields := by
  refine List.foldlRecOn e _ ⟨[], rfl⟩ fun v hv (name, text) _ => ?_
  dsimp only
  split
  · next names hnames =>
    obtain ⟨outer, inner, rfl⟩ := List.exists_cons_of_ne_nil (fieldNames?_ne_nil hnames)
    exact ⟨_, by rw [nested, List.foldr_cons, Value.overlay]⟩
  · exact hv

end Environment

namespace Settings

theorem hasFields_lowerLayers (t : FileTree) (here : Location) (e : Environment) :
    ∀ l ∈ (lowerLayers t here e).1, l.HasFields := by
  intro l hl
  simp only [lowerLayers, List.cons_append, List.mem_cons, List.mem_append, List.not_mem_nil,
    or_false] at hl
  obtain rfl | hl | rfl := hl
  · exact ⟨_, rfl⟩
  · exact (SettingsFile.firstOf_spec t here _ [] (by simp)).1 l hl
  · exact Environment.hasFields_layer e

theorem isOfFiles_lowerLayers (t : FileTree) (here : Location) (e : Environment) :
    ∀ error ∈ (lowerLayers t here e).2, error.isOfFiles = true :=
  (SettingsFile.firstOf_spec t here _ [] (by simp)).2

def lowerFields (t : FileTree) (here : Location) (e : Environment) : Fields Value :=
  (lowerLayers t here e).1.foldl Layer.cover []

theorem pile_lowerLayers (t : FileTree) (here : Location) (e : Environment)
    (ls : List Layer) (h : ∀ l ∈ ls, l.HasFields) :
    Layer.pile .null ((lowerLayers t here e).1 ++ ls) =
      .ok (.object (ls.foldl Layer.cover (lowerFields t here e))) := by
  have hall : ∀ l ∈ (lowerLayers t here e).1 ++ ls, l.HasFields := fun l hl =>
    (List.mem_append.mp hl).elim (hasFields_lowerLayers t here e l) (h l)
  rw [lowerFields, ← List.foldl_append]
  -- The lowest layer turns what was null into an object.
  simp only [lowerLayers, List.cons_append, List.append_assoc] at hall ⊢
  rw [Layer.pile_cons_object .null (l := defaultLayer) rfl (by simp), Layer.pile_objects]
  · rfl
  · exact fun l hl => hall l (List.mem_cons_of_mem _ hl)

end Settings

end Overloads
