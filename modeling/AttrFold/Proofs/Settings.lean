import Mathlib.Data.List.Nodup
import AttrFold.Settings.Load
import AttrFold.Proofs.Entries

/-!
# Settings and their values

Loading depends on nothing but what is stored under the keys of settings (`load_congr`). Settings
are the values of all of them (`ext_value`), and each value is loaded by itself: it is the stored
one when the setting takes that, and otherwise the default (`value_load`). So storing a value that a
setting takes changes what is loaded in that one setting (`load_put`).
-/

namespace AttrFold

namespace Setting

theorem mem_all (k : Setting) : k ∈ all := by
  cases k <;> decide

/-- No two settings have the same key. -/
theorem nodup_keys_all : (all.map key).Nodup := by decide +kernel

theorem nodup_all : all.Nodup := nodup_keys_all.of_map key

theorem key_injective {k l : Setting} (h : k.key = l.key) : k = l :=
  List.inj_on_of_nodup_map nodup_keys_all k.mem_all l.mem_all h

theorem isRelevantKey_key (k : Setting) : isRelevantKey k.key = true := by
  have hscope : (scope ++ ['.']).isPrefixOf k.key = true :=
    List.isPrefixOf_iff_prefix.mpr (List.prefix_append _ k.shortKey)
  unfold isRelevantKey
  rw [hscope, Bool.or_true]

theorem isRelevantKey_wrapKey : isRelevantKey wrapKey = true := by decide

theorem wrapKey_ne_key (k : Setting) : wrapKey ≠ k.key := by
  intro h
  -- the keys of settings begin with another letter
  have hfirst : k.key.head? = some 'c' := rfl
  rw [← h] at hfirst
  exact absurd hfirst (by decide)

end Setting

namespace FoldStyle

/-- Fold styles have different words. -/
theorem word_injective {x y : FoldStyle} (h : x.word = y.word) : x = y := by
  cases x <;> cases y <;> first | rfl | exact absurd h (by decide)

/-- A fold style is read from its own word only. -/
theorem word_of_ofWord? {t : Text} {x : FoldStyle} (h : ofWord? t = some x) : x.word = t := by
  unfold ofWord? at h
  split at h
  · next ht =>
    obtain rfl : all = x := Option.some.inj h
    exact ht.symm
  · split at h
    · next ht =>
      obtain rfl : quoted = x := Option.some.inj h
      exact ht.symm
    · cases h

end FoldStyle

namespace Settings

variable {s t : Settings} {k l : Setting} {v : Json}

/-! ## Settings by their values -/

/-- Texts are read from strings only. -/
theorem map_str_of_textsOf? {items : List Json} {texts : List Text} (h : textsOf? items = some texts) :
    texts.map Json.str = items := by
  induction items generalizing texts with
  | nil =>
    obtain rfl : [] = texts := Option.some.inj h
    rfl
  | cons item items ih =>
    cases item with
    | str first =>
      obtain ⟨rest, hrest, rfl⟩ := Option.map_eq_some_iff.mp h
      rw [List.map_cons, ih hrest]
    | _ => cases h

/-- Strings are read as their texts. -/
theorem textsOf?_map_str (texts : List Text) : textsOf? (texts.map .str) = some texts := by
  induction texts with
  | nil => rfl
  | cons t texts ih => rw [List.map_cons, textsOf?, ih, Option.map_some]

/-- Settings with the same values are the same. -/
theorem ext_value (h : ∀ k, s.value k = t.value k) : s = t := by
  have hautoFold := Json.bool.inj (h .autoFold)
  have hunfold := Json.bool.inj (h .unfoldIfLineSelected)
  have hlanguages : s.supportedLanguages = t.supportedLanguages :=
    (List.map_inj_right fun _ _ => Json.str.inj).mp (Json.arr.inj (h .supportedLanguages))
  have hstyle := FoldStyle.word_injective (Json.str.inj (h .foldStyle))
  have hthreshold := Json.int.inj (h .foldLengthThreshold)
  have hmax := Json.int.inj (h .foldMaxLength)
  obtain ⟨_, _, _, _, _, _⟩ := s
  obtain ⟨_, _, _, _, _, _⟩ := t
  simp only at *
  subst hautoFold hunfold hlanguages hstyle hthreshold hmax
  rfl

/-- A setting that is changed to a value has it, and the other settings keep theirs. -/
theorem values_of_with? (h : s.with? k v = some t) :
    t.value k = v ∧ ∀ l, l ≠ k → t.value l = s.value l := by
  -- each setting takes values of one kind only, and no other setting sees the change
  cases k with
  | autoFold =>
    cases v with
    | bool b =>
      obtain rfl : { s with autoFold := b } = t := Option.some.inj h
      exact ⟨rfl, fun l hne => by cases l <;> first | exact absurd rfl hne | rfl⟩
    | _ => cases h
  | unfoldIfLineSelected =>
    cases v with
    | bool b =>
      obtain rfl : { s with unfoldIfLineSelected := b } = t := Option.some.inj h
      exact ⟨rfl, fun l hne => by cases l <;> first | exact absurd rfl hne | rfl⟩
    | _ => cases h
  | supportedLanguages =>
    cases v with
    | arr items =>
      obtain ⟨texts, htexts, rfl⟩ := Option.map_eq_some_iff.mp h
      refine ⟨congrArg Json.arr (map_str_of_textsOf? htexts), fun l hne => ?_⟩
      cases l <;> first | exact absurd rfl hne | rfl
    | _ => cases h
  | foldStyle =>
    cases v with
    | str word =>
      obtain ⟨style, hstyle, rfl⟩ := Option.map_eq_some_iff.mp h
      refine ⟨congrArg Json.str (FoldStyle.word_of_ofWord? hstyle), fun l hne => ?_⟩
      cases l <;> first | exact absurd rfl hne | rfl
    | _ => cases h
  | foldLengthThreshold =>
    cases v with
    | int n =>
      obtain rfl : { s with foldLengthThreshold := n } = t := Option.some.inj h
      exact ⟨rfl, fun l hne => by cases l <;> first | exact absurd rfl hne | rfl⟩
    | _ => cases h
  | foldMaxLength =>
    cases v with
    | int n =>
      obtain rfl : { s with foldMaxLength := n } = t := Option.some.inj h
      exact ⟨rfl, fun l hne => by cases l <;> first | exact absurd rfl hne | rfl⟩
    | _ => cases h

/-- Settings that are changed to several values have the one that is given for a setting, and where
none is given they keep their own. -/
theorem value_of_withAll? {values : Entries Setting Json} (hkeys : (Entries.keys values).Nodup)
    (h : s.withAll? values = some t) (l : Setting) :
    t.value l = (values.get? l).getD (s.value l) := by
  induction values generalizing s with
  | nil =>
    obtain rfl : s = t := Option.some.inj h
    rfl
  | cons m rest ih =>
    obtain ⟨k, v⟩ := m
    obtain ⟨hfirst, hrest⟩ := List.nodup_cons.mp hkeys
    obtain ⟨u, hu, hwith⟩ := Option.bind_eq_some_iff.mp h
    obtain ⟨hself, hothers⟩ := values_of_with? hu
    rw [ih hrest hwith, Entries.get?]
    split
    · next heq =>
      -- no later value is given for this setting
      subst heq
      rw [Entries.get?_of_not_mem hfirst, Option.getD_none, hself, Option.getD_some]
    · next hne => rw [hothers l (Ne.symm hne)]

/-! ## What is loaded

Reading goes through the settings one after the other, each of them once. -/

/-- The value that is stored for a setting, if the setting takes it. -/
def stored? (src : Source) (k : Setting) : Option Json := (src.value? k.key).filter (takes k)

/-- The value that is stored for a setting, if the setting does not take it. -/
def refused? (src : Source) (k : Setting) : Option Json :=
  (src.value? k.key).filter fun v => !takes k v

variable {src src' : Source} {ks : List Setting}

/-- The value of a key depends on what is looked up under it. -/
theorem value?_congr {key : Text} (h : src.lookup key = src'.lookup key) :
    src.value? key = src'.value? key := by
  unfold Source.value?
  rw [h]

/-- Reading a setting gives the value that is stored, or a warning about one that is refused. -/
theorem readOne_eq (src : Source) (k : Setting) : readOne src k
    = (((stored? src k).map fun v => (k, v)).toList,
      src.events ++ ((refused? src k).map (refusal k)).toList) := by
  unfold readOne stored? refused?
  cases src.value? k.key with
  | none => simp
  | some v => cases htakes : takes k v <;> simp [htakes, Option.filter]

/-- Settings are read in their order, each at most once. -/
theorem keys_readEach_sublist (src : Source) (ks : List Setting) :
    (Entries.keys (readEach src ks).1).Sublist ks := by
  induction ks with
  | nil => exact List.Sublist.slnil
  | cons k ks ih =>
    show (Entries.keys ((readOne src k).1 ++ (readEach src ks).1)).Sublist (k :: ks)
    rw [readOne_eq]
    cases stored? src k with
    | none => exact ih.cons k
    | some v => exact ih.cons_cons k

/-- Of the settings that are read, each one that takes its value has that value. -/
theorem get?_readEach (src : Source) (ks : List Setting) (l : Setting) :
    Entries.get? l (readEach src ks).1 = if l ∈ ks then stored? src l else none := by
  induction ks with
  | nil => rfl
  | cons k ks ih =>
    show Entries.get? l ((readOne src k).1 ++ (readEach src ks).1) = _
    rw [readOne_eq]
    by_cases heq : k = l
    · subst heq
      cases hstored : stored? src k with
      | none =>
        -- read again, the setting has no value either
        show Entries.get? k (readEach src ks).1 = _
        rw [ih, hstored]
        simp
      | some v => simp [Entries.get?]
    · have hmem : l ∈ k :: ks ↔ l ∈ ks := by simp [Ne.symm heq]
      simp only [hmem]
      rw [← ih]
      cases stored? src k with
      | none => rfl
      | some v => simp [Entries.get?, heq]

/-- What is reported while settings are read: of each one what its look-up causes, and its refusal. -/
theorem events_readEach (src : Source) (ks : List Setting) : (readEach src ks).2
    = ks.flatMap fun k => src.events ++ ((refused? src k).map (refusal k)).toList := by
  induction ks with
  | nil => rfl
  | cons k ks ih =>
    show (readOne src k).2 ++ (readEach src ks).2 = _
    rw [readOne_eq, ih, List.flatMap_cons]

/-- The values that are read are put in force, all of them. -/
theorem withAll?_readEach (src : Source) :
    ({} : Settings).withAll? (readEach src Setting.all).1 = some (load src).1 :=
  (Option.some_get _).symm

/-- Each value is the stored one if the setting takes that, and otherwise the default. -/
theorem value_load (src : Source) (k : Setting) :
    (load src).1.value k = (stored? src k).getD (({} : Settings).value k) := by
  have hkeys := Setting.nodup_all.sublist (keys_readEach_sublist src Setting.all)
  rw [value_of_withAll? hkeys (withAll?_readEach src), get?_readEach, if_pos k.mem_all]

/-- What is loaded for a setting depends on what is stored under its key, and on nothing else. -/
theorem value_load_congr (h : src.lookup k.key = src'.lookup k.key) :
    (load src).1.value k = (load src').1.value k := by
  rw [value_load, value_load]
  unfold stored?
  rw [value?_congr h]

section Congr

variable (hevents : src.events = src'.events)
  (hlookup : ∀ k : Setting, src.lookup k.key = src'.lookup k.key)

include hevents hlookup

/-- Two sources that agree on the keys that matter give the same reading of a setting. -/
theorem readOne_congr (k : Setting) : readOne src k = readOne src' k := by
  unfold readOne
  rw [value?_congr (hlookup k), hevents]

theorem readEach_congr (ks : List Setting) : readEach src ks = readEach src' ks := by
  induction ks with
  | nil => rfl
  | cons k ks ih => simp only [readEach, readOne_congr hevents hlookup, ih]

/-- Loading depends only on what is stored under the keys of settings, and on what a look-up reports. -/
theorem load_congr : load src = load src' := by
  have hread := readEach_congr hevents hlookup Setting.all
  have hwith := withAll?_readEach src
  rw [hread, withAll?_readEach src'] at hwith
  refine Prod.ext (Option.some.inj hwith).symm ?_
  show (readEach src Setting.all).2 = (readEach src' Setting.all).2
  rw [hread]

end Congr

/-- Only null would not count as a value, and no setting takes null. -/
theorem value?_of_takes (hlookup : src.lookup k.key = some v) (htakes : takes k v = true) :
    src.value? k.key = some v := by
  unfold Source.value?
  rw [hlookup]
  cases v with
  | null => cases k <;> cases htakes
  | _ => rfl

/-- A value that a setting takes is stored for it. -/
theorem stored?_of_takes (hlookup : src.lookup k.key = some v) (htakes : takes k v = true) :
    stored? src k = some v := by
  rw [stored?, value?_of_takes hlookup htakes, Option.filter_some_pos htakes]

/-- Storing a value that a setting takes changes what is loaded in that setting and in no other. -/
theorem load_put {o : Json.Object} (h : (load (.ofObject o)).1.with? k v = some t) :
    (load (.ofObject (o.put k.key v))).1 = t := by
  obtain ⟨hself, hothers⟩ := values_of_with? h
  refine ext_value fun l => ?_
  by_cases heq : l = k
  · subst heq
    have hlookup : (Source.ofObject (o.put l.key v)).lookup l.key = some v :=
      Entries.get?_put_self l.key v o
    have htakes : takes l v = true := by
      rw [takes, isSome_with? _ (load (.ofObject o)).1, h, Option.isSome_some]
    rw [value_load, stored?_of_takes hlookup htakes, Option.getD_some, hself]
  · have hlookup : (Source.ofObject (o.put k.key v)).lookup l.key = (Source.ofObject o).lookup l.key :=
      Entries.get?_put_of_ne (fun hkey => heq (Setting.key_injective hkey)) v o
    rw [value_load_congr hlookup, hothers l heq]

/-- Putting a value for a setting leaves the wrapping column. -/
theorem wrapColumn_put (o : Json.Object) (k : Setting) (v : Json) :
    (wrapColumn (.ofObject (o.put k.key v))).1 = (wrapColumn (.ofObject o)).1 := by
  show ((o.put k.key v).get? Setting.wrapKey).bind columnOf? = (o.get? Setting.wrapKey).bind columnOf?
  rw [Entries.get?_put_of_ne (Setting.wrapKey_ne_key k)]

end Settings

end AttrFold
