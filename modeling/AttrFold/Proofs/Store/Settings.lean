import AttrFold.Proofs.Settings.Loading
import AttrFold.Proofs.Store.File

/-!
# Settings that are stored and loaded

Sorting a value makes no difference to the setting that it is stored for (`takes_sorted`,
`sorted_of_takes`), so what is loaded from a settings file is what its members say, in whatever
order they are written. Values that are set one after the other are all there in the end
(`Usable.setEach`), and settings that are stored value by value are loaded as they were
(`load_setEach`).
-/

namespace AttrFold

/-! ## Settings and sorted values -/

namespace Settings

variable {k : Setting} {v : Json}

/-- Texts are read from sorted items as from the items. -/
theorem textsOf?_sortedItems (items : List Json) :
    textsOf? (Json.sortedItems items) = textsOf? items := by
  induction items with
  | nil => rfl
  | cons v items ih => cases v <;> simp only [Json.sortedItems, Json.sorted, textsOf?, ih]

theorem takes_value (s : Settings) (k : Setting) : takes k (s.value k) = true :=
  (s.isValid_value k).takes

/-- The value of a setting has no floats and names no key twice. -/
theorem plain_value (s : Settings) (k : Setting) : (s.value k).Distinct ∧ (s.value k).FloatFree := by
  cases k with
  | supportedLanguages =>
    exact ⟨.arr (List.forall_mem_map.mpr fun t _ => .str t),
      .arr (List.forall_mem_map.mpr fun t _ => .str t)⟩
  | _ => exact ⟨by constructor, by constructor⟩

theorem takes_sorted (k : Setting) (v : Json) : takes k v.sorted = takes k v := by
  cases v with
  | arr items =>
    cases k with
    | supportedLanguages =>
      show ((textsOf? (Json.sortedItems items)).map _).isSome = ((textsOf? items).map _).isSome
      rw [textsOf?_sortedItems]
    | _ => rfl
  | obj members => cases k <;> rfl
  | _ => rfl

/-- What a setting takes has nothing to sort. -/
theorem sorted_of_takes (h : takes k v = true) : v.sorted = v := by
  -- no setting takes an object, and only one takes a list, whose items are strings
  cases v with
  | arr items =>
    cases k with
    | supportedLanguages =>
      obtain ⟨t, ht⟩ := Option.isSome_iff_exists.mp h
      obtain ⟨texts, htexts, -⟩ := Option.map_eq_some_iff.mp ht
      rw [← map_str_of_textsOf? htexts, Json.sorted, Json.sortedItems_eq, List.map_map]
      rfl
    | _ => cases h
  | obj members => cases k <;> cases h
  | _ => rfl

section Sorted

variable {members : Json.Object} (hkeys : (Entries.keys members).Nodup)

include hkeys

/-- The value of a key in sorted members is its value, sorted. -/
theorem value?_sortedObject (key : Text) : (Source.ofObject (Json.sortedObject members)).value? key
    = ((Source.ofObject members).value? key).map Json.sorted := by
  have hlookup : (Source.ofObject (Json.sortedObject members)).lookup key
      = ((Source.ofObject members).lookup key).map Json.sorted := Json.get?_sortedObject hkeys key
  unfold Source.value?
  rw [hlookup]
  -- null stays null, and nothing else becomes null
  cases (Source.ofObject members).lookup key with
  | none => rfl
  | some v => cases v <;> rfl

/-- Sorted members store the same values for settings. -/
theorem stored?_sortedObject (k : Setting) :
    stored? (.ofObject (Json.sortedObject members)) k = stored? (.ofObject members) k := by
  unfold stored?
  rw [value?_sortedObject hkeys]
  cases (Source.ofObject members).value? k.key with
  | none => rfl
  | some v =>
    rw [Option.map_some]
    cases htakes : takes k v with
    | true => rw [sorted_of_takes htakes]
    | false =>
      rw [Option.filter_some_neg htakes,
        Option.filter_some_neg ((takes_sorted k v).trans htakes)]

/-- What is loaded does not depend on the order of members. -/
theorem load_sortedObject :
    (load (.ofObject (Json.sortedObject members))).1 = (load (.ofObject members)).1 := by
  refine ext_value fun k => ?_
  rw [value_load, value_load, stored?_sortedObject hkeys]

theorem wrapColumn_sortedObject :
    (wrapColumn (.ofObject (Json.sortedObject members))).1 = (wrapColumn (.ofObject members)).1 := by
  show (Entries.get? _ (Json.sortedObject members)).bind columnOf?
    = (Entries.get? _ members).bind columnOf?
  rw [Json.get?_sortedObject hkeys]
  cases Entries.get? Setting.wrapKey members with
  | none => rfl
  | some v => cases v <;> rfl

end Sorted

/-- What is loaded does not depend on what a source logs. -/
theorem load_lookup (members : Json.Object) (events : List Event) :
    (load ⟨fun k => members.get? k, events⟩).1 = (load (.ofObject members)).1 := by
  refine ext_value fun k => ?_
  rw [value_load, value_load]
  rfl

/-- Nothing is reported while values are loaded that all settings take. -/
theorem events_load_of_takes {src : Source} (hevents : src.events = [])
    (h : ∀ k : Setting, ∃ v, src.value? k.key = some v ∧ takes k v = true) : (load src).2 = [] := by
  show (readEach src Setting.all).2 = []
  rw [events_readEach, hevents]
  refine List.flatMap_eq_nil_iff.mpr fun k _ => ?_
  obtain ⟨v, hvalue, htakes⟩ := h k
  rw [refused?, hvalue, Option.filter_some_neg (by simp [htakes])]
  rfl

/-- Settings are loaded from their values. -/
theorem load_of_values {src : Source} (hevents : src.events = []) {s : Settings}
    (h : ∀ k : Setting, src.lookup k.key = some (s.value k)) : load src = (s, []) := by
  have hvalue : (load src).1 = s := by
    refine ext_value fun k => ?_
    rw [value_load, stored?_of_takes (h k) (takes_value s k)]
    rfl
  have hquiet : (load src).2 = [] :=
    events_load_of_takes hevents fun k => ⟨_, value?_of_takes (h k) (takes_value s k), takes_value s k⟩
  exact Prod.ext hvalue hquiet

end Settings

namespace FileStore

open Json (Agrees)

variable {fs fs' : Files} {file : Path} {members : Json.Object} {k : Text} {v : Json}

/-- Members that are read without a word are the source of settings. -/
theorem source_of_readAll (h : readAll fs file = .ok (members, [])) :
    source fs file = .ok (.ofObject members) := by
  rw [source, h]
  rfl

/-- Without limits, there is a source of what is held wherever the bytes are a text. -/
theorem exists_source (h : fs.readText file ≠ .error .notUtf8) :
    ∃ events, source fs file = .ok ⟨fun k => (held fs file).get? k, events⟩ := by
  obtain ⟨events, hread⟩ := exists_readAll h
  refine ⟨events, ?_⟩
  rw [source, hread]

/-! ## Several values -/

/-- Sets values under keys, one after the other, until one cannot be set. -/
def setEach (fs : Files) (file : Path) : List (Text × Json) → Files.Attempt × List Event
  | [] => (⟨fs, none⟩, [])
  | (k, v) :: rest =>
    match set fs file k v with
    | (⟨fs, none⟩, first) =>
      let (attempt, events) := setEach fs file rest
      (attempt, first ++ events)
    | failed => failed

/-- Setting many keys is setting the first one and then the others. -/
theorem setEach_cons (h : (set fs file k v).1 = ⟨fs', none⟩) (rest : List (Text × Json)) :
    (setEach fs file ((k, v) :: rest)).1 = (setEach fs' file rest).1 := by
  cases hset : set fs file k v with
  | mk attempt events =>
    rw [hset] at h
    obtain rfl : attempt = ⟨fs', none⟩ := h
    rw [setEach, hset]

/-- Values that are set one after the other are written in the end as if they had all been put into
what was there at first: each of them is put into members that are sorted by then, which makes no
difference to what is written. -/
theorem Usable.written_setEach (h : Usable fs file) {news : List (Text × Json)} (hne : news ≠ [])
    (hnews : ∀ m ∈ news, m.2.Distinct ∧ m.2.FloatFree) :
    ∃ fs', (FileStore.setEach fs file news).1 = ⟨fs', none⟩ ∧ Files.Written fs file
      (Text.encode (fileText (Entries.putAll news (held fs file)))) fs' := by
  induction news generalizing fs with
  | nil => exact absurd rfl hne
  | cons m rest ih =>
    obtain ⟨⟨hkeys, hfree⟩, hrest⟩ := List.forall_mem_cons.mp hnews
    obtain ⟨fs₁, hset, husable, hwritten, hread⟩ := h.set hkeys hfree m.1
    have hheld := (held_of_readAll hread).2
    cases rest with
    | nil => exact ⟨fs₁, setEach_cons hset [], hwritten⟩
    | cons n rest =>
      obtain ⟨fs', hsets, hwritten'⟩ := ih husable (List.cons_ne_nil n rest) hrest
      refine ⟨fs', (setEach_cons hset _).trans hsets, ?_⟩
      have hkeysRest : ∀ l ∈ n :: rest, l.2.Distinct := fun l hl => (hrest l hl).1
      have hput := (distinct_held fs file).put (k := m.1) hkeys
      have hputSorted : (Json.obj (Json.sortedObject _)).Distinct := hput.sorted
      have hsame := Json.sortedObject_putAll_sortedObject hkeysRest hput
      rw [← hheld, ← fileText_sortedObject (hputSorted.putAll hkeysRest), hsame,
        fileText_sortedObject (hput.putAll hkeysRest)] at hwritten'
      exact hwritten.trans hwritten'

/-- Values that are set one after the other are all there in the end, and what was there before. -/
theorem Usable.setEach (h : Usable fs file) {news : List (Text × Json)} (hne : news ≠ [])
    (hnews : ∀ m ∈ news, m.2.Distinct ∧ m.2.FloatFree) :
    ∃ fs', (FileStore.setEach fs file news).1 = ⟨fs', none⟩
      ∧ readAll fs' file = .ok (Json.sortedObject (Entries.putAll news (held fs file)), []) := by
  obtain ⟨fs', hset, hwritten⟩ := h.written_setEach hne hnews
  have hkeys := (distinct_held fs file).putAll fun m hm => (hnews m hm).1
  have hfree := h.floatFree.putAll fun m hm => (hnews m hm).2
  exact ⟨fs', hset, readAll_of_written hkeys hfree hwritten⟩

/-- **Settings that are stored value by value, in any order, are loaded as they were.** What the
file held under other keys is still there. -/
theorem load_setEach {fs : Files} {file : Path} (h : Usable fs file) (s : Settings)
    {order : List Setting} (horder : order.Perm Setting.all) :
    ∃ fs' src, (setEach fs file (order.map fun k => (k.key, s.value k))).1 = ⟨fs', none⟩ ∧
      source fs' file = .ok src ∧ Settings.load src = (s, []) ∧
      ∀ key, (∀ k : Setting, key ≠ k.key) →
        Option.Rel Agrees ((held fs file).get? key) (src.lookup key) := by
  let news := order.map fun k => (k.key, s.value k)
  have hkeysNews : Entries.keys news = order.map Setting.key := by
    rw [Entries.keys, List.map_map]
    rfl
  have hnodup : (Entries.keys news).Nodup := by
    rw [hkeysNews]
    exact (horder.map Setting.key).nodup_iff.mpr Setting.nodup_keys_all
  have hmem : ∀ k : Setting, (k.key, s.value k) ∈ news := fun k =>
    List.mem_map_of_mem (horder.mem_iff.mpr k.mem_all)
  have hne : news ≠ [] := List.ne_nil_of_mem (hmem .autoFold)
  have hnews : ∀ m ∈ news, m.2.Distinct ∧ m.2.FloatFree :=
    List.forall_mem_map.mpr fun k _ => s.plain_value k
  obtain ⟨fs', hset, hread⟩ := h.setEach hne hnews
  -- each key is looked up among sorted members: those that were set, and those that were there before
  have hlookup : ∀ key, (Json.sortedObject (Entries.putAll news (held fs file))).get? key
      = ((Entries.putAll news (held fs file)).get? key).map Json.sorted :=
    Json.get?_sortedObject (Entries.nodup_keys_putAll (distinct_held fs file).nodup_keys)
  refine ⟨fs', _, hset, source_of_readAll hread, Settings.load_of_values rfl fun k => ?_,
    fun key hkey => ?_⟩
  · refine (hlookup k.key).trans ?_
    rw [Entries.get?_putAll_of_mem hnodup (hmem k), Option.map_some,
      Settings.sorted_of_takes (Settings.takes_value s k)]
  · have hnot : key ∉ Entries.keys news := by
      rw [hkeysNews]
      intro hkeyMem
      obtain ⟨k, -, hk⟩ := List.mem_map.mp hkeyMem
      exact hkey k hk.symm
    show Option.Rel Agrees _ (Entries.get? key (Json.sortedObject _))
    rw [hlookup, Entries.get?_putAll_of_not_mem hnot]
    exact Json.rel_map_sorted (distinct_held fs file) key

/-- A settings file that is not JSON is replaced, the last setting first. -/
theorem load_setEach_malformed :
    let file : Path := "settings.json"
    let fs : Files := { items := [(["settings.json"], .file (Text.encode ['x']))] }
    let s : Settings :=
      { supportedLanguages := ["php", "\"é"], foldStyle := .quoted, foldMaxLength := -2 }
    let order := Setting.all.reverse
    Usable fs file ∧ order.Perm Setting.all ∧
      ∃ fs' src, (setEach fs file (order.map fun k => (k.key, s.value k))).1 = ⟨fs', none⟩ ∧
        source fs' file = .ok src ∧ Settings.load src = (s, []) := by
  intro file fs s order
  have hbytes : fs.readBytes file = .ok (Text.encode ['x']) := rfl
  have htext : fs.readText file = .ok ['x'] := by
    rw [Files.readText, hbytes]
    simp only [Text.decode?_encode]
    rfl
  have hmalformed : Json.read? ['x'] = none := Option.isNone_iff_eq_none.mp (by decide +kernel)
  have hheld : held fs file = [] := by
    rw [held, htext]
    simp only [hmalformed]
  have hwritable : fs.IsWritable file := Files.write_error_eq_none_iff.mp
    (by decide +kernel : ((fs.ensureParent file).andThen (·.writeBytes file .empty)).error = none)
  have husable : Usable fs file := by
    refine ⟨hwritable, fun h => ?_, ?_⟩
    · rw [htext] at h
      cases h
    · rw [hheld]
      exact .empty
  have horder : order.Perm Setting.all := List.reverse_perm Setting.all
  obtain ⟨fs', src, hset, hsource, hload, -⟩ := load_setEach husable s horder
  exact ⟨husable, horder, fs', src, hset, hsource, hload⟩

end FileStore

end AttrFold
