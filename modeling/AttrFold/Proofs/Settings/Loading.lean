import AttrFold.Proofs.Settings

/-!
# Settings from any store

A store may hold anything under the keys of the settings: nothing, null, or a value of any type.
Loading goes over it twice. At first each value is checked by itself, and one that does not pass is
reported and left aside; then what is left is put in force together. The second step would have to
give up if one of the values were not taken after all (`withAll?`), and never does.

* **`IsValid`** — the values that each setting takes, said type by type. The check of a single value
  is this predicate (`takes_iff_isValid`), and everything below is said with it.
* **`load_each_by_itself`** — loading always comes to an end, each setting has its stored value or its
  default whatever stands under the other keys, and each value that is not valid is reported once.
-/

namespace AttrFold.Settings

variable {src : Source} {k : Setting} {v : Json}

/-! ## Valid values -/

/-- The values that a setting takes: a switch is on or off, languages are a list of texts and of nothing
else, a style is one of two words, and a length is a whole number. No value stands for one of another
type. -/
inductive IsValid : Setting → Json → Prop where
  | autoFold (on : Bool) : IsValid .autoFold (.bool on)
  | unfoldIfLineSelected (on : Bool) : IsValid .unfoldIfLineSelected (.bool on)
  | supportedLanguages (names : List Text) : IsValid .supportedLanguages (.arr (names.map .str))
  | styleAll : IsValid .foldStyle (.str "ALL")
  | styleQuoted : IsValid .foldStyle (.str "QUOTED")
  | foldLengthThreshold (n : Int) : IsValid .foldLengthThreshold (.int n)
  | foldMaxLength (n : Int) : IsValid .foldMaxLength (.int n)

theorem IsValid.takes (h : IsValid k v) : takes k v = true := by
  cases h with
  | supportedLanguages names =>
    show ((textsOf? (names.map .str)).map _).isSome = true
    rw [textsOf?_map_str, Option.map_some, Option.isSome_some]
  | _ => rfl

/-- What a setting takes is valid for it. -/
theorem isValid_of_takes (h : takes k v = true) : IsValid k v := by
  -- each setting takes values of one type, and of these all but some lists and some words
  cases k with
  | autoFold => cases v with
    | bool on => exact .autoFold on
    | _ => cases h
  | unfoldIfLineSelected => cases v with
    | bool on => exact .unfoldIfLineSelected on
    | _ => cases h
  | supportedLanguages => cases v with
    | arr items =>
      obtain ⟨t, ht⟩ := Option.isSome_iff_exists.mp h
      obtain ⟨names, hnames, -⟩ := Option.map_eq_some_iff.mp ht
      rw [← map_str_of_textsOf? hnames]
      exact .supportedLanguages names
    | _ => cases h
  | foldStyle => cases v with
    | str word =>
      obtain ⟨t, ht⟩ := Option.isSome_iff_exists.mp h
      obtain ⟨style, hstyle, -⟩ := Option.map_eq_some_iff.mp ht
      rw [← FoldStyle.word_of_ofWord? hstyle]
      cases style with
      | all => exact .styleAll
      | quoted => exact .styleQuoted
    | _ => cases h
  | foldLengthThreshold => cases v with
    | int n => exact .foldLengthThreshold n
    | _ => cases h
  | foldMaxLength => cases v with
    | int n => exact .foldMaxLength n
    | _ => cases h

/-- **The check of a single value is the one for its type.** -/
theorem takes_iff_isValid : takes k v = true ↔ IsValid k v := ⟨isValid_of_takes, IsValid.takes⟩

/-- The defaults pass the check that stored values have to pass. -/
theorem isValid_value (s : Settings) (k : Setting) : IsValid k (s.value k) := by
  cases k with
  | foldStyle =>
    show IsValid .foldStyle (.str s.foldStyle.word)
    cases s.foldStyle with
    | all => exact .styleAll
    | quoted => exact .styleQuoted
  | _ => constructor

/-! ## What is stored, and what is refused of it

Null is as good as nothing: no setting takes it, and it is not reported. -/

/-- A key has a value if one is looked up that is not null. -/
theorem value?_eq_some_iff {key : Text} :
    src.value? key = some v ↔ src.lookup key = some v ∧ v ≠ .null := by
  unfold Source.value?
  split
  · next hnull => simp [hnull, eq_comm]
  · next hother =>
    refine ⟨fun h => ⟨h, fun hnull => hother (hnull ▸ h)⟩, fun h => h.1⟩

/-- A value is stored for a setting if it is looked up and valid. -/
theorem stored?_eq_some_iff : stored? src k = some v ↔ src.lookup k.key = some v ∧ IsValid k v := by
  refine ⟨fun h => ?_, fun h => stored?_of_takes h.1 h.2.takes⟩
  obtain ⟨hvalue, htakes⟩ := Option.filter_eq_some_iff.mp h
  exact ⟨(value?_eq_some_iff.mp hvalue).1, isValid_of_takes htakes⟩

/-- A value is refused if it is looked up, is not null and not valid. -/
theorem refused?_eq_some_iff :
    refused? src k = some v ↔ src.lookup k.key = some v ∧ v ≠ .null ∧ ¬IsValid k v := by
  unfold refused?
  rw [Option.filter_eq_some_iff, value?_eq_some_iff, ← takes_iff_isValid, Bool.not_eq_true',
    Bool.not_eq_true, and_assoc]

/-- What is stored is loaded when it is valid. -/
theorem value_load_of_isValid (hlookup : src.lookup k.key = some v) (hvalid : IsValid k v) :
    (load src).1.value k = v := by
  rw [value_load, stored?_eq_some_iff.mpr ⟨hlookup, hvalid⟩, Option.getD_some]

/-- Where nothing valid is stored the default stays in force. -/
theorem value_load_of_not_isValid (h : ∀ v, src.lookup k.key = some v → ¬IsValid k v) :
    (load src).1.value k = ({} : Settings).value k := by
  have hnone : stored? src k = none := by
    refine Option.eq_none_iff_forall_not_mem.mpr fun v hv => ?_
    obtain ⟨hlookup, hvalid⟩ := stored?_eq_some_iff.mp hv
    exact h v hlookup hvalid
  rw [value_load, hnone, Option.getD_none]

/-! ## What is reported -/

theorem level_refusal (k : Setting) (v : Json) : (refusal k v).level = .warning := by
  unfold refusal
  split <;> rfl

/-- A refusal names the key and shows the value. -/
theorem message_refusal (k : Setting) (v : Json) :
    ("Ignoring " ++ k.key ++ "=" ++ v.shown ++ ": " : Text) <+: (refusal k v).message := by
  unfold refusal
  split
  · exact ⟨"expected a list", List.append_assoc _ _ _⟩
  · exact ⟨"falling back to default", List.append_assoc _ _ _⟩

/-- The values that are stored for settings which do not take them, in the order of the settings. -/
def refusedValues (src : Source) : List (Setting × Json) :=
  Setting.all.filterMap fun k => (refused? src k).map fun v => (k, v)

theorem mem_refusedValues_iff :
    (k, v) ∈ refusedValues src ↔ src.lookup k.key = some v ∧ v ≠ .null ∧ ¬IsValid k v := by
  rw [← refused?_eq_some_iff]
  simp [refusedValues, k.mem_all]

/-- A setting has at most one refused value. -/
theorem map_fst_refusedValues (src : Source) :
    (refusedValues src).map Prod.fst = Setting.all.filter fun k => (refused? src k).isSome := by
  unfold refusedValues
  rw [List.map_filterMap, ← List.filterMap_eq_filter]
  refine List.filterMap_congr fun k _ => ?_
  cases hrefused : refused? src k <;> simp [hrefused, Option.guard]

/-- A source that is read without incident reports the refusals and nothing else. -/
theorem events_load (hquiet : src.events = []) :
    (load src).2 = (refusedValues src).map fun m => refusal m.1 m.2 := by
  show (readEach src Setting.all).2 = _
  rw [events_readEach, hquiet, refusedValues, List.map_filterMap, List.filterMap_eq_flatMap_toList]
  refine List.flatMap_congr fun k _ => ?_
  rw [List.nil_append, Option.map_map]
  rfl

/-- **Settings are loaded one by one, whatever a store holds.** Each value that is read passes the
check by itself, and all of them pass it together, so there are settings in the end. Each setting
has the value that is stored for it when that is valid, and otherwise its default; what stands under
other keys makes no difference. Reported are the values that are there, not null and not valid, and
nothing else: one warning for each such setting, in the order of the settings, with its key and its
value. -/
theorem load_each_by_itself (content : Text → Option Json) :
    let src : Source := ⟨content, []⟩
    (∀ m ∈ (readEach src Setting.all).1, (({} : Settings).withAll? [m]).isSome = true)
      ∧ ({} : Settings).withAll? (readEach src Setting.all).1 = some (load src).1
      ∧ (∀ k v, content k.key = some v → IsValid k v → (load src).1.value k = v)
      ∧ (∀ k, (∀ v, content k.key = some v → ¬IsValid k v) →
        (load src).1.value k = ({} : Settings).value k)
      ∧ (∀ (other : Text → Option Json) (k : Setting), other k.key = content k.key →
        (load ⟨other, []⟩).1.value k = (load src).1.value k)
      ∧ ∃ refused : List (Setting × Json),
        (refused.map Prod.fst).Sublist Setting.all
          ∧ (∀ k v, (k, v) ∈ refused ↔ content k.key = some v ∧ v ≠ .null ∧ ¬IsValid k v)
          ∧ (load src).2 = refused.map (fun m => refusal m.1 m.2)
          ∧ ∀ m ∈ refused, (refusal m.1 m.2).level = .warning
            ∧ ("Ignoring " ++ m.1.key ++ "=" ++ m.2.shown ++ ": " : Text)
              <+: (refusal m.1 m.2).message := by
  intro src
  refine ⟨fun m hm => ?_, withAll?_readEach src, fun k v hlookup hvalid => ?_, fun k h => ?_,
    fun other k hkey => ?_, refusedValues src, ?_, fun k v => mem_refusedValues_iff, events_load rfl,
    fun m _ => ?_⟩
  · refine isSome_withAll? (fun n hn => ?_) _
    rw [List.mem_singleton.mp hn]
    exact takes_of_mem_readEach hm
  · exact value_load_of_isValid hlookup hvalid
  · exact value_load_of_not_isValid h
  · exact value_load_congr hkey
  · rw [map_fst_refusedValues]
    exact List.filter_sublist
  · exact ⟨level_refusal m.1 m.2, message_refusal m.1 m.2⟩

/-- A number for a switch, a text for a list, null, a truth value for a number, and one valid value. -/
theorem load_each_by_itself_malformed :
    let store : Json.Object := [(Setting.foldMaxLength.key, .int 12),
      (Setting.foldLengthThreshold.key, .bool true), (Setting.foldStyle.key, .null),
      (Setting.supportedLanguages.key, .str "html"), (Setting.autoFold.key, .int 1)]
    let content : Text → Option Json := fun key => store.get? key
    let src : Source := ⟨content, []⟩
    content Setting.foldMaxLength.key = some (.int 12) ∧ IsValid .foldMaxLength (.int 12) ∧
      (load src).1.value .foldMaxLength = .int 12 ∧
      (∀ v, content Setting.autoFold.key = some v → ¬IsValid .autoFold v) ∧
      (load src).1.value .autoFold = .bool false ∧
      ∃ refused : List (Setting × Json), (load src).2 = refused.map (fun m => refusal m.1 m.2) ∧
        (.autoFold, .int 1) ∈ refused ∧ (∀ v, (.foldStyle, v) ∉ refused) ∧
        (load src).2.length = 3 := by
  intro store content src
  obtain ⟨-, -, hvalid, hdefault, -, refused, -, hrefused, hevents, -⟩ := load_each_by_itself content
  have hswitch : ∀ v, content Setting.autoFold.key = some v → ¬IsValid .autoFold v := by
    intro v hv
    obtain rfl : Json.int 1 = v := Option.some.inj hv
    exact nofun
  have hnull : ∀ v, (Setting.foldStyle, v) ∉ refused := by
    intro v hmem
    obtain ⟨hlookup, hne, -⟩ := (hrefused _ v).mp hmem
    exact hne (Option.some.inj hlookup).symm
  refine ⟨rfl, .foldMaxLength 12, hvalid _ _ rfl (.foldMaxLength 12), hswitch,
    hdefault _ hswitch, refused, hevents, (hrefused _ _).mpr ⟨rfl, nofun, nofun⟩, hnull, ?_⟩
  decide +kernel

end AttrFold.Settings
