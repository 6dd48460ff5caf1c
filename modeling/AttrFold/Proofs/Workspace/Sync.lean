import AttrFold.Proofs.Settings
import AttrFold.Proofs.Workspace.Notification

/-!
# The settings in force and the store

A session reads its store only when it is told to, and it does not care to be told of keys that are not
relevant. It may do so since nothing else is read: what is loaded depends on relevant keys only
(`load_of_relevant`). Turning automatic folding on or off changes settings and store apart from each
other, and yet alike (`inSync_toggle`).

* **`settings_eq_load_of_announced`** — when each change of the store from outside is announced, the
  settings in force are those that the store has; and a change without relevant keys alters nothing that
  a reload brings.
-/

namespace AttrFold

/-! ## What is read of a store -/

namespace Settings

variable {o o' : Json.Object}

/-- The settings depend on relevant keys only, and so does the column at which lines are wrapped. -/
theorem load_of_relevant (h : ∀ k, Setting.isRelevantKey k = true → o.get? k = o'.get? k) :
    load (.ofObject o) = load (.ofObject o') ∧
      wrapColumn (.ofObject o) = wrapColumn (.ofObject o') := by
  refine ⟨load_congr rfl fun k => h k.key k.isRelevantKey_key, ?_⟩
  have hwrap :
      (Source.ofObject o).lookup Setting.wrapKey = (Source.ofObject o').lookup Setting.wrapKey :=
    h Setting.wrapKey Setting.isRelevantKey_wrapKey
  unfold wrapColumn
  rw [hwrap]
  rfl

end Settings

/-- What a session loads from a source is the settings and the wrapping column. -/
theorem Session.load_congr {src src' : Source} (hload : Settings.load src = Settings.load src')
    (hwrap : Settings.wrapColumn src = Settings.wrapColumn src') (s : Session)
    (editor : Option Editor) :
    s.load src editor = s.load src' editor := by
  unfold load configure
  rw [hload, hwrap]

namespace Workspace

/-- A host is in sync when its session has the settings and the wrap column that its store has. -/
structure InSync (w : Workspace) : Prop where
  settings : w.session.settings = (Settings.load w.store.source).1
  wrapColumn : w.session.wrapColumn = (Settings.wrapColumn w.store.source).1

variable {w : Workspace} {a : Action}

/-! ## What keeps the session in sync

A rescan leaves settings and wrap column as they are, so it is enough to look at the session from which
it starts. -/

/-- A notification scans with what the store has, if it is prepared with that. -/
theorem Notifies.inSync_step (h : w.Notifies a)
    (hsettings : (w.prepared a).settings = (Settings.load (w.step a).1.store.source).1)
    (hwrap : (w.prepared a).wrapColumn = (Settings.wrapColumn (w.step a).1.store.source).1) :
    (w.step a).1.InSync := by
  obtain ⟨hsettings', hwrap'⟩ := (w.prepared a).update_config (w.step a).1.activeEditor
  rw [← h.session_step] at hsettings' hwrap'
  exact ⟨hsettings'.trans hsettings, hwrap'.trans hwrap⟩

/-- Loading settings brings the session in step with the store. -/
theorem inSync_loadSettings (w : Workspace) : (w.step .loadSettings).1.InSync :=
  Notifies.loadSettings.inSync_step rfl rfl

/-- The store takes up the value that the session turned to, whatever stood in its place. -/
theorem inSync_toggle (h : w.InSync) : (w.step .toggle).1.InSync := by
  -- the same switch is turned in what was loaded and in the settings in force, as these are one
  have hload : (Settings.load (.ofObject w.store.values)).1.with? .autoFold
      (.bool w.session.flip.settings.autoFold) = some w.session.flip.settings := by
    have hstored : (Settings.load (.ofObject w.store.values)).1 = w.session.settings := h.settings.symm
    rw [hstored]
    rfl
  refine Notifies.toggle.inSync_step ?_ ?_
  · exact (Settings.load_put hload).symm
  · exact h.wrapColumn.trans (Settings.wrapColumn_put _ .autoFold _).symm

/-- Without a toggle a rescan starts from the settings that the store has, be they read or kept. -/
theorem InSync.prepared (h : w.InSync) (hne : a ≠ .toggle) :
    (w.prepared a).settings = (Settings.load w.store.source).1 ∧
      (w.prepared a).wrapColumn = (Settings.wrapColumn w.store.source).1 := by
  cases a with
  | loadSettings => exact ⟨rfl, rfl⟩
  | settingsChanged _ => exact ⟨rfl, rfl⟩
  | toggle => exact absurd rfl hne
  | _ => exact ⟨h.settings, h.wrapColumn⟩

/-- An action that leaves the store keeps the session in step with it. -/
theorem InSync.step (h : w.InSync) (ha : ¬ChangesStore a) : (w.step a).1.InSync := by
  by_cases htoggle : a = .toggle
  · subst htoggle
    exact inSync_toggle h
  have hstore : (w.step a).1.store = w.store := store_step_of_ne_toggle ha htoggle
  by_cases hnotifies : w.Notifies a
  · obtain ⟨hsettings, hwrap⟩ := h.prepared htoggle
    rw [← hstore] at hsettings hwrap
    exact hnotifies.inSync_step hsettings hwrap
  · have hsession := session_step_of_not_notifies hnotifies
    refine ⟨?_, ?_⟩
    · rw [hsession, hstore]
      exact h.settings
    · rw [hsession, hstore]
      exact h.wrapColumn

/-! ## Changes from outside -/

/-- After changes under keys that are not relevant, what could be loaded is what could be loaded
before. -/
theorem load_run_of_irrelevant {changes : List Action}
    (hirrelevant : ∀ k, (w.run changes).store.values.get? k ≠ w.store.values.get? k →
      Setting.isRelevantKey k = false) :
    Settings.load (w.run changes).store.source = Settings.load w.store.source ∧
      Settings.wrapColumn (w.run changes).store.source = Settings.wrapColumn w.store.source := by
  refine Settings.load_of_relevant fun k hk => ?_
  -- a relevant key with another value would be among those that are not relevant
  by_contra hchanged
  rw [hirrelevant k hchanged] at hk
  cases hk

/-- Changes that are announced under their keys leave the session in sync, whether it takes notice of
the announcement or not. -/
theorem InSync.change (h : w.InSync) {changes : List Action} (hchanges : ∀ a ∈ changes, ChangesStore a)
    {keys : Option (List Text)}
    (hkeys : ∀ ks, keys = some ks →
      ∀ k, (w.run changes).store.values.get? k ≠ w.store.values.get? k → k ∈ ks) :
    ((w.run changes).step (.settingsChanged keys)).1.InSync := by
  cases hnotice : isRelevantChange keys with
  | true =>
    rw [step_settingsChanged_of_relevant hnotice]
    exact inSync_loadSettings _
  | false =>
    rw [step_settingsChanged_of_irrelevant hnotice]
    -- without notice the keys are known, and none of those that changed is relevant
    have hirrelevant : ∀ k, (w.run changes).store.values.get? k ≠ w.store.values.get? k →
        Setting.isRelevantKey k = false := by
      intro k hchanged
      cases keys with
      | none => cases hnotice
      | some ks =>
        have hmem := hkeys ks rfl k hchanged
        exact Bool.eq_false_iff.mpr (List.any_eq_false.mp hnotice k hmem)
    obtain ⟨hload, hwrap⟩ := load_run_of_irrelevant hirrelevant
    obtain ⟨store, hrun⟩ := exists_run_of_changesStore (w := w) hchanges
    rw [hrun] at hload hwrap ⊢
    exact ⟨h.settings.trans (congrArg Prod.fst hload).symm,
      h.wrapColumn.trans (congrArg Prod.fst hwrap).symm⟩

/-- A reload finds no difference after changes under keys that are not relevant. -/
theorem loadSettings_run_of_irrelevant {changes : List Action}
    (hchanges : ∀ a ∈ changes, ChangesStore a)
    (hirrelevant : ∀ k, (w.run changes).store.values.get? k ≠ w.store.values.get? k →
      Setting.isRelevantKey k = false) :
    ((w.run changes).step .loadSettings).1.session = (w.step .loadSettings).1.session ∧
      ((w.run changes).step .loadSettings).2 = (w.step .loadSettings).2 := by
  obtain ⟨hload, hwrap⟩ := load_run_of_irrelevant hirrelevant
  obtain ⟨store, hrun⟩ := exists_run_of_changesStore (w := w) hchanges
  rw [hrun] at hload hwrap ⊢
  show (w.session.load store.source w.activeEditor).1 = _ ∧
    (w.session.load store.source w.activeEditor).2 = _
  rw [w.session.load_congr hload hwrap]
  exact ⟨rfl, rfl⟩

/-! ## Runs in which the store is announced -/

/-- A run that begins with loading the settings, and in which any changes of the store from outside are
announced before anything else happens: under all keys whose values changed, or as unknown. -/
inductive Announced (w : Workspace) : List Action → Prop where
  | loaded : Announced w [.loadSettings]
  | step {as : List Action} {a : Action} (before : Announced w as) (ha : ¬ChangesStore a) :
      Announced w (as ++ [a])
  | change {as changes : List Action} {keys : Option (List Text)} (before : Announced w as)
      (hchanges : ∀ a ∈ changes, ChangesStore a)
      (hkeys : ∀ ks, keys = some ks → ∀ k, (w.run (as ++ changes)).store.values.get? k
        ≠ (w.run as).store.values.get? k → k ∈ ks) :
      Announced w (as ++ changes ++ [.settingsChanged keys])

/-- A run in which each change is announced ends in step with the store. -/
theorem Announced.inSync {as : List Action} (h : w.Announced as) : (w.run as).InSync := by
  induction h with
  | loaded => exact inSync_loadSettings w
  | step _ ha ih =>
    rw [run_concat]
    exact ih.step ha
  | change _ hchanges hkeys ih =>
    rw [run_concat]
    rw [run_append] at hkeys ⊢
    exact ih.change hchanges hkeys

/-- **The settings in force are those of the store as long as its changes are announced.** Changes that
no relevant key has a part in need not be noticed: a reload after them does what it would have done
before. -/
theorem settings_eq_load_of_announced (w : Workspace) :
    (∀ as, w.Announced as →
      let v := w.run as
      v.session.settings = (Settings.load v.store.source).1 ∧
        v.session.wrapColumn = (Settings.wrapColumn v.store.source).1) ∧
      ∀ changes, (∀ a ∈ changes, ChangesStore a) →
        let v := w.run changes
        (∀ k, v.store.values.get? k ≠ w.store.values.get? k → Setting.isRelevantKey k = false) →
        Settings.load v.store.source = Settings.load w.store.source ∧
          Settings.wrapColumn v.store.source = Settings.wrapColumn w.store.source ∧
          (v.step .loadSettings).1.session = (w.step .loadSettings).1.session ∧
          (v.step .loadSettings).2 = (w.step .loadSettings).2 ∧
          ∀ ks, (∀ k ∈ ks, Setting.isRelevantKey k = false) →
            (v.step (.settingsChanged (some ks))).1 = v := by
  refine ⟨fun as h => ⟨h.inSync.settings, h.inSync.wrapColumn⟩,
    fun changes hchanges hirrelevant => ?_⟩
  obtain ⟨hload, hwrap⟩ := load_run_of_irrelevant hirrelevant
  obtain ⟨hsession, hevents⟩ := loadSettings_run_of_irrelevant hchanges hirrelevant
  refine ⟨hload, hwrap, hsession, hevents, fun ks hks => ?_⟩
  have hnotice : isRelevantChange (some ks) = false :=
    List.any_eq_false.mpr fun k hk => Bool.eq_false_iff.mp (hks k hk)
  rw [step_settingsChanged_of_irrelevant hnotice]

/-- A malformed value is replaced by a toggle, and a change that is not noticed stands next to it. -/
theorem settings_eq_load_of_announced_toggle :
    let fontSize : Text := "editor.fontSize"
    let change : Action := .put [(fontSize, .int 12)]
    let w : Workspace := { store := { values := [(Setting.autoFold.key, .str "yes")] } }
    let as : List Action := [.loadSettings] ++ [.toggle]
    let bs : List Action := as ++ [change] ++ [.settingsChanged (some [fontSize])]
    let u := w.run as
    let v := w.run bs
    w.Announced bs ∧ v.session.settings = (Settings.load v.store.source).1 ∧
      v.session.settings.autoFold = true ∧
      (∀ a ∈ [change], ChangesStore a) ∧ Setting.isRelevantKey fontSize = false ∧
      ((u.run [change]).step .loadSettings).1.session = (u.step .loadSettings).1.session := by
  intro fontSize change w as bs u v
  have hchange : ∀ a ∈ [change], ChangesStore a := by
    intro a ha
    rw [List.mem_singleton.mp ha]
    exact .put _
  have hkey : ∀ k, (u.run [change]).store.values.get? k ≠ u.store.values.get? k → k = fontSize := by
    intro k hchanged
    by_contra hne
    exact hchanged (Entries.get?_put_of_ne hne _ _)
  have hirrelevant : Setting.isRelevantKey fontSize = false := by decide
  have hloaded : w.Announced [.loadSettings] := .loaded
  have htoggled : w.Announced as := hloaded.step nofun
  have hannounced : w.Announced bs := by
    refine htoggled.change hchange fun ks hks k hchanged => ?_
    obtain rfl := Option.some.inj hks
    rw [run_append] at hchanged
    exact List.mem_singleton.mpr (hkey k hchanged)
  obtain ⟨hsettings, -⟩ := (settings_eq_load_of_announced w).1 bs hannounced
  obtain ⟨-, -, hreload, -⟩ := (settings_eq_load_of_announced u).2 [change] hchange
    fun k hchanged => hkey k hchanged ▸ hirrelevant
  refine ⟨hannounced, hsettings, ?_, hchange, hirrelevant, hreload⟩
  decide +kernel

end Workspace

end AttrFold
