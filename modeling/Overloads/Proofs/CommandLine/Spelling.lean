import Overloads.Proofs.CommandLine.Words

/-!
# How command lines are spelled

A command line that can be read is a sequence of items, each a switch or an option with its value,
and what is read of it are these items (`read_spelled`). Every command line can be spelled, and
neither the order of the items nor the way a value is attached makes a difference.
-/

namespace Overloads.CommandLine

inductive Item where
  | switch (s : Switch)
  | option (o : Valued) (text : String)
deriving DecidableEq, Repr

def Item.name : Item → Name
  | .switch s => .switch s
  | .option o _ => .option o

/-- The words that spell items. A value stands in the word of its option or in one of its own, and
a terminator may stand at the end. -/
inductive Spells : List Item → List ByteArray → Prop
  | nil : Spells [] []
  | terminator : Spells [] [Text.bytes "--"]
  | switch (s : Switch) {items words} : Spells items words →
      Spells (.switch s :: items) (Text.bytes ("--" ++ s.text) :: words)
  | joined (o : Valued) (text : String) {items words} : Spells items words →
      Spells (.option o text :: items) (Text.bytes ("--" ++ o.text ++ "=" ++ text) :: words)
  | apart (o : Valued) {text : String} {items words} : StandsAlone text → Spells items words →
      Spells (.option o text :: items)
        (Text.bytes ("--" ++ o.text) :: Text.bytes text :: words)

def Holds (c : CommandLine) : Item → Prop
  | .switch .check => c.check = true
  | .switch .omitPragmas => c.omitPragmas = true
  | .option .out text => c.out = some text
  | .option .logLevel text => c.logLevel = some text

def add (c : CommandLine) : Item → Except CommandLineError CommandLine
  | .switch s => turnOn c s
  | .option o text => enter c o (Text.bytes text)

variable {c d : CommandLine} {item : Item} {items items' : List Item}
  {words words' : List ByteArray}

/-! ## Words of items -/

theorem word_switch (s : Switch) : word (Text.bytes ("--" ++ s.text)) = .switch s :=
  word_eq_switch_iff.mpr rfl

theorem word_option (o : Valued) : word (Text.bytes ("--" ++ o.text)) = .option o none :=
  word_eq_option_iff.mpr (List.append_nil _).symm

theorem eq_of_word_option {b : ByteArray} {o : Valued} (h : word b = .option o none) :
    b = Text.bytes ("--" ++ o.text) :=
  Text.eq_bytes_iff.mpr ((word_eq_option_iff.mp h).trans (List.append_nil _))

theorem word_joined (o : Valued) (text : String) :
    word (Text.bytes ("--" ++ o.text ++ "=" ++ text)) =
      .option o (some (Text.bytes text)) := by
  refine word_eq_option_iff.mpr ?_
  have hequals : Text.octets "=" = [61] := rfl
  have hall : (Text.bytes ("--" ++ o.text ++ "=" ++ text)).data.toList =
      Text.octets ("--" ++ o.text ++ "=" ++ text) := rfl
  rw [hall, Text.octets_append, Text.octets_append, hequals, List.append_assoc]
  rfl

theorem eq_of_word_joined {b : ByteArray} {o : Valued} {text : String}
    (h : word b = .option o (some (Text.bytes text))) :
    b = Text.bytes ("--" ++ o.text ++ "=" ++ text) := by
  refine Text.eq_bytes_iff.mpr ?_
  rw [word_eq_option_iff.mp h, ← word_eq_option_iff.mp (word_joined o text)]
  rfl

/-! ## Reading what is spelled -/

theorem readWords_cons {p : Progress} {w : Word} (h : w ≠ .terminator) (ws : List Word) :
    readWords p (w :: ws) = readWord p w >>= fun p' => readWords p' ws := by
  cases w <;> first | rfl | exact absurd rfl h

theorem readWords_cons_pending {w : Word}
    (hw : (∃ s, w = .switch s) ∨ ∃ o value?, w = .option o value?) (ws : List Word)
    (c : CommandLine) (o : Valued) (value : ByteArray) :
    readWords { given := c, pending := some (o, some value) } (w :: ws) =
      enter c o value >>= fun c' => readWords { given := c' } (w :: ws) := by
  have hsettle : settle { given := c, pending := some (o, some value) } = enter c o value := rfl
  rcases hw with ⟨s, rfl⟩ | ⟨o', value?, rfl⟩
  · rw [readWords_cons (by simp)]
    simp only [readWord, hsettle]
    cases enter c o value <;> rfl
  · rw [readWords_cons (by simp)]
    cases value? <;> simp only [readWord, hsettle] <;> cases enter c o value <;> rfl

/-- A value that is still to be looked at is looked at before anything else. -/
theorem readWords_pending (h : Spells items words) (c : CommandLine) (o : Valued)
    (value : ByteArray) :
    readWords { given := c, pending := some (o, some value) } (words.map word) =
      enter c o value >>= fun c' => readWords { given := c' } (words.map word) := by
  -- the line ends here, or the next word is a name and settles the value first
  have hsettle : enter c o value >>= (fun c' => .ok c') =
      settle { given := c, pending := some (o, some value) } := by
    simp only [settle]
    cases enter c o value <;> rfl
  cases h with
  | nil => exact hsettle.symm
  | terminator => exact hsettle.symm
  | switch s h =>
    rw [List.map_cons, word_switch]
    exact readWords_cons_pending (.inl ⟨s, rfl⟩) _ c o value
  | joined o' text h =>
    rw [List.map_cons, word_joined]
    exact readWords_cons_pending (.inr ⟨o', _, rfl⟩) _ c o value
  | apart o' hstands h =>
    rw [List.map_cons, word_option]
    exact readWords_cons_pending (.inr ⟨o', _, rfl⟩) _ c o value

theorem readWords_switch (c : CommandLine) (s : Switch) (ws : List Word) :
    readWords { given := c } (.switch s :: ws) =
      turnOn c s >>= fun d => readWords { given := d } ws := by
  have hread : readWord { given := c } (.switch s) =
      turnOn c s >>= fun d => .ok { given := d } := rfl
  rw [readWords_cons (by simp), hread]
  cases turnOn c s <;> rfl

theorem readWords_joined (c : CommandLine) (o : Valued) (value : ByteArray) (ws : List Word) :
    readWords { given := c } (.option o (some value) :: ws) =
      enter c o value >>= fun d => readWords { given := d } ws := by
  have hread : readWord { given := c } (.option o (some value)) =
      enter c o value >>= fun d => .ok { given := d } := rfl
  rw [readWords_cons (by simp), hread]
  cases enter c o value <;> rfl

/-- Words are read as the items that they spell, one after the other. -/
theorem readWords_of_spells (h : Spells items words) :
    ∀ c : CommandLine, readWords { given := c } (words.map word) = items.foldlM add c := by
  induction h with
  | nil | terminator =>
    intro c
    rfl
  | switch s _ ih =>
    intro c
    rw [List.map_cons, word_switch, readWords_switch, List.foldlM_cons, add]
    simp only [ih]
  | joined o text _ ih =>
    intro c
    rw [List.map_cons, word_joined, readWords_joined, List.foldlM_cons, add]
    simp only [ih]
  | @apart o text items words hstands hspells ih =>
    intro c
    have hread : readWords { given := c }
        ((Text.bytes ("--" ++ o.text) :: Text.bytes text :: words).map word) =
        readWords { given := c, pending := some (o, some (Text.bytes text)) }
          (words.map word) := by
      rw [List.map_cons, List.map_cons, word_option, word_eq_plain_of_text.mpr hstands]
      rfl
    rw [hread, readWords_pending hspells, List.foldlM_cons, add]
    simp only [ih]

/-! ## Reading nothing else -/

theorem exists_of_bind {α β : Type} {x : Except CommandLineError α}
    {f : α → Except CommandLineError β} {b : β} (h : x >>= f = .ok b) :
    ∃ a, x = .ok a ∧ f a = .ok b := by
  cases x with
  | error e => cases h
  | ok a => exact ⟨a, rfl, h⟩

theorem exists_text_of_enter {o : Valued} {value : ByteArray} (h : enter c o value = .ok d) :
    ∃ text, value = Text.bytes text := by
  have htext : (Text.ofBytes? value).isSome = true := by
    unfold enter at h
    cases o with
    | out | logLevel =>
      simp only at h
      split at h
      · cases h
      · split at h
        · next text htext => rw [htext]; rfl
        · cases h
  obtain ⟨text, htext⟩ := Option.isSome_iff_exists.mp htext
  exact ⟨text, Text.ofBytes?_eq_some_iff.mp htext⟩

theorem readWords_of_pending {o : Valued} {value : ByteArray} : ∀ {ws : List Word},
    readWords { given := c, pending := some (o, some value) } ws = .ok d →
      ∃ c', enter c o value = .ok c' ∧ readWords { given := c' } ws = .ok d
  | [], h => ⟨d, h, rfl⟩
  | .terminator :: ws, h => by
    rw [readWords] at h
    split at h
    · next hend => exact ⟨d, h, by rw [readWords, if_pos hend]; rfl⟩
    · cases h
  | .switch s :: ws, h => by
    rw [readWords_cons_pending (.inl ⟨s, rfl⟩)] at h
    exact exists_of_bind h
  | .option o' value? :: ws, h => by
    rw [readWords_cons_pending (.inr ⟨o', value?, rfl⟩)] at h
    exact exists_of_bind h
  | .help :: ws, h | .version :: ws, h => by
    rw [readWords_cons (by simp)] at h
    obtain ⟨p, hp, -⟩ := exists_of_bind h
    obtain ⟨_, -, hthrow⟩ := exists_of_bind hp
    cases hthrow
  | .valuedSwitch :: ws, h | .unknown :: ws, h | .plain value' :: ws, h => by
    rw [readWords_cons (by simp)] at h
    cases h

/-- An option that still lacks its value is followed by a plain word. -/
theorem exists_plain_of_readWords {o : Valued} : ∀ {ws : List Word},
    readWords { given := c, pending := some (o, none) } ws = .ok d →
      ∃ value ws', ws = .plain value :: ws' ∧
        readWords { given := c, pending := some (o, some value) } ws' = .ok d
  | [], h => nomatch h
  | .terminator :: ws, h => by
    rw [readWords] at h
    split at h <;> cases h
  | .plain value :: ws, h => ⟨value, ws, rfl, h⟩
  | .option o' value? :: ws, h => by
    cases value? <;> cases h
  | .switch s :: ws, h | .help :: ws, h | .version :: ws, h | .valuedSwitch :: ws, h
  | .unknown :: ws, h => by
    rw [readWords_cons (by simp)] at h
    cases h

theorem exists_apart_of_readWords {o : Valued}
    (h : readWords { given := c, pending := some (o, none) } (words.map word) = .ok d) :
    ∃ text rest c', words = Text.bytes text :: rest ∧ StandsAlone text ∧
      readWords { given := c' } (rest.map word) = .ok d := by
  obtain ⟨value, ws, hws, hpending⟩ := exists_plain_of_readWords h
  obtain ⟨b, rest, rfl, hb, rfl⟩ := List.map_eq_cons_iff.mp hws
  obtain ⟨c', henter, hrest⟩ := readWords_of_pending hpending
  obtain ⟨text, rfl⟩ := exists_text_of_enter henter
  obtain rfl := (word_eq_plain_iff.mp hb).1
  exact ⟨text, rest, c', rfl, word_eq_plain_of_text.mp hb, hrest⟩

theorem spells_of_readWords : ∀ (words : List ByteArray) (c : CommandLine) {d : CommandLine},
    readWords { given := c } (words.map word) = .ok d → ∃ items, Spells items words
  | [], _, _, _ => ⟨[], .nil⟩
  | b :: words, c, d, h => by
    rw [List.map_cons] at h
    cases hword : word b with
    | terminator =>
      rw [hword, readWords] at h
      split at h
      · next hend =>
        obtain rfl : words = [] := by simpa using hend
        obtain rfl := word_eq_terminator_iff.mp hword
        exact ⟨[], .terminator⟩
      · cases h
    | switch s =>
      rw [hword, readWords_switch] at h
      obtain ⟨c', -, hrest⟩ := exists_of_bind h
      obtain ⟨items, hitems⟩ := spells_of_readWords words c' hrest
      obtain rfl := word_eq_switch_iff.mp hword
      exact ⟨_, .switch s hitems⟩
    | option o value? =>
      cases value? with
      | some value =>
        rw [hword, readWords_joined] at h
        obtain ⟨c', henter, hrest⟩ := exists_of_bind h
        obtain ⟨text, rfl⟩ := exists_text_of_enter henter
        obtain ⟨items, hitems⟩ := spells_of_readWords words c' hrest
        obtain rfl := eq_of_word_joined hword
        exact ⟨_, .joined o text hitems⟩
      | none =>
        rw [hword, readWords_cons (by simp)] at h
        -- the word of the value is taken with the one of its option
        obtain ⟨text, rest, c', hwords, hstands, hrest⟩ := exists_apart_of_readWords h
        obtain ⟨items, hitems⟩ := spells_of_readWords rest c' hrest
        obtain rfl := eq_of_word_option hword
        rw [hwords]
        exact ⟨_, .apart o hstands hitems⟩
    | help | version | valuedSwitch | unknown | plain =>
      rw [hword, readWords_cons (by simp)] at h
      cases h
termination_by words => words.length
decreasing_by
  · exact Nat.lt_succ_self _
  · rw [hwords]
    simp only [List.length_cons]
    omega
  · exact Nat.lt_succ_self _

/-! ## What items add up to -/

theorem eq_of_holds (h : ∀ item, c.Holds item ↔ d.Holds item) : c = d := by
  obtain ⟨out, check, omitPragmas, logLevel⟩ := c
  obtain ⟨out', check', omitPragmas', logLevel'⟩ := d
  have hout : out = out' := Option.ext fun text => h (.option .out text)
  have hcheck : check = check' := Bool.eq_iff_iff.mpr (h (.switch .check))
  have hpragmas : omitPragmas = omitPragmas' := Bool.eq_iff_iff.mpr (h (.switch .omitPragmas))
  have hlevel : logLevel = logLevel' := Option.ext fun text => h (.option .logLevel text)
  rw [hout, hcheck, hpragmas, hlevel]

def isGiven (c : CommandLine) : Name → Bool
  | .switch .check => c.check
  | .switch .omitPragmas => c.omitPragmas
  | .option .out => c.out.isSome
  | .option .logLevel => c.logLevel.isSome
  | .help | .version => false

theorem isGiven_iff {n : Name} : c.isGiven n = true ↔ ∃ item, c.Holds item ∧ item.name = n := by
  constructor
  · intro h
    match n with
    | .switch .check => exact ⟨.switch .check, h, rfl⟩
    | .switch .omitPragmas => exact ⟨.switch .omitPragmas, h, rfl⟩
    | .option .out =>
      obtain ⟨text, htext⟩ := Option.isSome_iff_exists.mp h
      exact ⟨.option .out text, htext, rfl⟩
    | .option .logLevel =>
      obtain ⟨text, htext⟩ := Option.isSome_iff_exists.mp h
      exact ⟨.option .logLevel text, htext, rfl⟩
  · rintro ⟨item, hitem, rfl⟩
    match item with
    | .switch .check | .switch .omitPragmas => exact hitem
    | .option .out text | .option .logLevel text =>
      exact Option.isSome_iff_exists.mpr ⟨text, hitem⟩

theorem add_of_given (h : c.isGiven item.name = true) : add c item = .error .repeated := by
  match item with
  | .switch .check | .switch .omitPragmas => exact if_pos h
  | .option .out text | .option .logLevel text => exact if_pos h

theorem exists_add (h : c.isGiven item.name = false) :
    ∃ d, add c item = .ok d ∧ ∀ other, d.Holds other ↔ c.Holds other ∨ other = item := by
  match item with
  | .switch .check =>
    have hcheck : c.check = false := h
    refine ⟨{ c with check := true }, by simp [add, turnOn, hcheck], fun other => ?_⟩
    rcases other with (_ | _) | ⟨_ | _, text⟩ <;> simp [Holds]
  | .switch .omitPragmas =>
    have hpragmas : c.omitPragmas = false := h
    refine ⟨{ c with omitPragmas := true }, by simp [add, turnOn, hpragmas], fun other => ?_⟩
    rcases other with (_ | _) | ⟨_ | _, text⟩ <;> simp [Holds]
  | .option .out text =>
    have hout : c.out = none := by simpa [isGiven, Item.name] using h
    refine ⟨{ c with out := some text }, by simp [add, enter, hout, Text.ofBytes?_bytes],
      fun other => ?_⟩
    rcases other with (_ | _) | ⟨_ | _, text'⟩ <;> simp [Holds, hout, eq_comm (a := text)]
  | .option .logLevel text =>
    have hlevel : c.logLevel = none := by simpa [isGiven, Item.name] using h
    refine ⟨{ c with logLevel := some text }, by simp [add, enter, hlevel, Text.ofBytes?_bytes],
      fun other => ?_⟩
    rcases other with (_ | _) | ⟨_ | _, text'⟩ <;> simp [Holds, hlevel, eq_comm (a := text)]

theorem isGiven_of_add (h : ∀ other, d.Holds other ↔ c.Holds other ∨ other = item) (n : Name) :
    d.isGiven n = false ↔ c.isGiven n = false ∧ n ≠ item.name := by
  rw [← Bool.not_eq_true, ← Bool.not_eq_true, isGiven_iff, isGiven_iff, ← not_or]
  apply not_congr
  constructor
  · rintro ⟨other, hother, rfl⟩
    rcases (h other).mp hother with hold | rfl
    · exact .inl ⟨other, hold, rfl⟩
    · exact .inr rfl
  · rintro (⟨other, hother, rfl⟩ | rfl)
    · exact ⟨other, (h other).mpr (.inl hother), rfl⟩
    · exact ⟨item, (h item).mpr (.inr rfl), rfl⟩

/-- Items of different names, none given before, can all be entered. -/
theorem exists_foldlM_add : ∀ (items : List Item) (c : CommandLine),
    (items.map Item.name).Nodup → (∀ n ∈ items.map Item.name, c.isGiven n = false) →
      ∃ d, items.foldlM add c = .ok d ∧ ∀ other, d.Holds other ↔ c.Holds other ∨ other ∈ items
  | [], c, _, _ => ⟨c, rfl, fun other => by simp⟩
  | item :: items, c, hnodup, hfree => by
    obtain ⟨hitem, hrest⟩ := List.nodup_cons.mp hnodup
    obtain ⟨hfirst, hothers⟩ := List.forall_mem_cons.mp hfree
    obtain ⟨c', hadd, hholds⟩ := exists_add hfirst
    have hfree' : ∀ n ∈ items.map Item.name, c'.isGiven n = false := fun n hn =>
      (isGiven_of_add hholds n).mpr ⟨hothers n hn, fun hsame => hitem (hsame ▸ hn)⟩
    obtain ⟨d, hd, hall⟩ := exists_foldlM_add items c' hrest hfree'
    refine ⟨d, by rw [List.foldlM_cons, hadd]; exact hd, fun other => ?_⟩
    rw [hall, hholds, List.mem_cons, or_assoc]

/-- Otherwise a name comes up twice, and nothing else can be wrong. -/
theorem foldlM_add_repeated : ∀ (items : List Item) (c : CommandLine),
    ¬ ((items.map Item.name).Nodup ∧ ∀ n ∈ items.map Item.name, c.isGiven n = false) →
      items.foldlM add c = .error .repeated
  | [], c, h => absurd ⟨.nil, by simp⟩ h
  | item :: items, c, h => by
    rw [List.foldlM_cons]
    cases hgiven : c.isGiven item.name with
    | true =>
      rw [add_of_given hgiven]
      rfl
    | false =>
      obtain ⟨c', hadd, hholds⟩ := exists_add hgiven
      rw [hadd]
      refine foldlM_add_repeated items c' fun ⟨hrest, hfree⟩ => h ⟨?_, ?_⟩
      · refine List.nodup_cons.mpr ⟨fun hitem => ?_, hrest⟩
        exact ((isGiven_of_add hholds _).mp (hfree _ hitem)).2 rfl
      · refine List.forall_mem_cons.mpr ⟨hgiven, fun n hn => ?_⟩
        exact ((isGiven_of_add hholds n).mp (hfree n hn)).1

/-! ## Reading a command line -/

theorem read_eq_foldlM (h : Spells items words) : read words = items.foldlM add {} :=
  readWords_of_spells h {}

theorem isGiven_empty (n : Name) : ({} : CommandLine).isGiven n = false := by
  rcases n with _ | _ | (_ | _) | (_ | _) <;> rfl

theorem not_holds_empty (item : Item) : ¬ ({} : CommandLine).Holds item := by
  intro h
  have hgiven := isGiven_iff.mpr ⟨item, h, rfl⟩
  rw [isGiven_empty] at hgiven
  cases hgiven

theorem exists_read (h : Spells items words) (hnodup : (items.map Item.name).Nodup) :
    ∃ c, read words = .ok c ∧ ∀ item, c.Holds item ↔ item ∈ items := by
  obtain ⟨c, hc, hholds⟩ := exists_foldlM_add items {} hnodup fun n _ => isGiven_empty n
  refine ⟨c, by rw [read_eq_foldlM h, hc], fun item => ?_⟩
  rw [hholds, or_iff_right (not_holds_empty item)]

theorem read_repeated (h : Spells items words) (hrepeated : ¬ (items.map Item.name).Nodup) :
    read words = .error .repeated := by
  rw [read_eq_foldlM h]
  exact foldlM_add_repeated items {} fun hboth => hrepeated hboth.1

theorem nodup_of_read (h : Spells items words) (hread : read words = .ok c) :
    (items.map Item.name).Nodup := by
  by_cases hnodup : (items.map Item.name).Nodup
  · exact hnodup
  · rw [read_repeated h hnodup] at hread
    cases hread

theorem holds_of_read (h : Spells items words) (hread : read words = .ok c) (item : Item) :
    c.Holds item ↔ item ∈ items := by
  obtain ⟨c', hread', hholds⟩ := exists_read h (nodup_of_read h hread)
  cases hread.symm.trans hread'
  exact hholds item

theorem read_of_perm (h : Spells items words) (h' : Spells items' words')
    (hperm : items'.Perm items) : read words' = read words := by
  have hnames := (hperm.map Item.name).nodup_iff
  by_cases hnodup : (items.map Item.name).Nodup
  · obtain ⟨c, hc, hholds⟩ := exists_read h hnodup
    obtain ⟨c', hc', hholds'⟩ := exists_read h' (hnames.mpr hnodup)
    have hsame : c' = c := eq_of_holds fun item => by rw [hholds', hholds, hperm.mem_iff]
    rw [hc, hc', hsame]
  · rw [read_repeated h hnodup, read_repeated h' (mt hnames.mp hnodup)]

/-! ## Spelling a command line -/

def givenItems (c : CommandLine) : List Item :=
  (c.out.map (Item.option .out)).toList ++
    (if c.check then [.switch .check] else []) ++
    (if c.omitPragmas then [.switch .omitPragmas] else []) ++
    (c.logLevel.map (Item.option .logLevel)).toList

theorem mem_givenItems (c : CommandLine) (item : Item) : item ∈ c.givenItems ↔ c.Holds item := by
  rcases item with (_ | _) | ⟨_ | _, text⟩ <;> simp [givenItems, Holds]

theorem nodup_givenItems (c : CommandLine) : (c.givenItems.map Item.name).Nodup := by
  obtain ⟨out, check, omitPragmas, logLevel⟩ := c
  cases out <;> cases check <;> cases omitPragmas <;> cases logLevel <;>
    simp [givenItems, Item.name]

theorem exists_spells : ∀ items : List Item, ∃ words, Spells items words
  | [] => ⟨[], .nil⟩
  | .switch s :: items => by
    obtain ⟨words, h⟩ := exists_spells items
    exact ⟨_, .switch s h⟩
  | .option o text :: items => by
    obtain ⟨words, h⟩ := exists_spells items
    exact ⟨_, .joined o text h⟩

theorem exists_read_eq (c : CommandLine) : ∃ words, read words = .ok c := by
  obtain ⟨words, h⟩ := exists_spells c.givenItems
  obtain ⟨c', hread, hholds⟩ := exists_read h c.nodup_givenItems
  have hsame : c' = c := eq_of_holds fun item => (hholds item).trans (c.mem_givenItems item)
  exact ⟨words, hsame ▸ hread⟩

/-- A command line can be read exactly if its words spell items that name nothing twice. What is
read are these items, in whatever order they stand and however their values are attached, and
everything that can be given can be spelled. -/
theorem read_spelled :
    (∀ words, (∃ c, read words = .ok c) ↔
      ∃ items, Spells items words ∧ (items.map Item.name).Nodup) ∧
    (∀ words items c, Spells items words → read words = .ok c →
      ∀ item, c.Holds item ↔ item ∈ items) ∧
    (∀ c, ∃ words, read words = .ok c) ∧
    ∀ items items' words words', Spells items words → Spells items' words' →
      items'.Perm items → read words' = read words := by
  refine ⟨fun words => ⟨?_, ?_⟩, ?_, exists_read_eq, ?_⟩
  · rintro ⟨c, hread⟩
    obtain ⟨items, hitems⟩ := spells_of_readWords words {} hread
    exact ⟨items, hitems, nodup_of_read hitems hread⟩
  · rintro ⟨items, hitems, hnodup⟩
    obtain ⟨c, hread, -⟩ := exists_read hitems hnodup
    exact ⟨c, hread⟩
  · intro words items c hitems hread
    exact holds_of_read hitems hread
  · intro items items' words words' hitems hitems' hperm
    exact read_of_perm hitems hitems' hperm

theorem read_spelled_dashes :
    let words := [Text.bytes "--out", Text.bytes "-", Text.bytes "--check",
      Text.bytes "--log-level=-x=y", Text.bytes "--"]
    let rearranged := [Text.bytes "--log-level=-x=y", Text.bytes "--check", Text.bytes "--out=-"]
    read words = .ok { out := some "-", check := true, logLevel := some "-x=y" } ∧
      read rearranged = read words := by
  intro words rearranged
  let items : List Item := [.option .out "-", .switch .check, .option .logLevel "-x=y"]
  have hwords : Spells items words :=
    .apart .out (by decide) (.switch .check (.joined .logLevel "-x=y" .terminator))
  have hrearranged : Spells items.reverse rearranged :=
    .joined .logLevel "-x=y" (.switch .check (.joined .out "-" .nil))
  obtain ⟨hok, hholds, -, hsame⟩ := read_spelled
  obtain ⟨c, hread⟩ := (hok words).mpr ⟨items, hwords, by decide⟩
  have hc : c = { out := some "-", check := true, logLevel := some "-x=y" } := by
    refine eq_of_holds fun item => (hholds words items c hwords hread item).trans ?_
    rcases item with (_ | _) | ⟨_ | _, text⟩ <;> simp [items, Holds, eq_comm]
  exact ⟨hc ▸ hread, hsame items _ _ _ hwords hrearranged items.reverse_perm⟩

end Overloads.CommandLine
