import AttrFold.Proofs.Session
import AttrFold.Proofs.Workspace.Step

/-!
# Notifications

An action either notifies the session, and then the active editor is scanned again, or leaves the
session as it is. What a session holds is therefore fixed by what its last notification found, however
long the run was.

## The architecture

* **`Notifies`** — the actions that the session is told of, said without running them.
* **`prepared`** — the session from which the rescan of a notification starts. With it a step is one
  equation (`Notifies.session_step`), and no later proof takes a notification apart again.
* **`LastSeen`** — the active editor as it was at the last notification of a run. It grows with the run,
  so that what a whole run leaves follows by induction (`LastSeen.reflects`).

* **`rescans_exactly_when_notified`** — a notification is a full rescan, every other action leaves the
  session as it is, and two runs with the same outcome of their last notification agree.
-/

namespace AttrFold.Workspace

/-! ## What a step does to the session -/

/-- The actions that the session is told of, unless it takes no notice. A change of settings is taken
notice of when its keys are not known or one of them is relevant. -/
inductive Notifies (w : Workspace) : Action → Prop where
  | loadSettings : Notifies w .loadSettings
  | activate {i : Nat} (hi : i < w.editors.length) : Notifies w (.activate (some i))
  | selectionChanged : Notifies w .selectionChanged
  | anySettingsChanged : Notifies w (.settingsChanged none)
  | settingsChanged {keys : List Text} {k : Text} (hk : k ∈ keys)
      (hrelevant : Setting.isRelevantKey k = true) : Notifies w (.settingsChanged (some keys))
  | toggle : Notifies w .toggle
  | update : Notifies w .update

/-- The session from which the rescan of a notification starts. -/
def prepared (w : Workspace) : Action → Session
  | .loadSettings | .settingsChanged _ => (w.session.configure w.store.source).1
  | .activate _ => { w.session with result := none }
  | .toggle => w.session.flip
  | _ => w.session

variable {w : Workspace} {a : Action}

/-- Preparing a session does not scan. -/
theorem prepared_scans (w : Workspace) (a : Action) : (w.prepared a).scans = w.session.scans := by
  cases a <;> rfl

theorem prepared_view (w : Workspace) (a : Action) : (w.prepared a).view = w.session.view := by
  cases a <;> rfl

/-- Before the rescan there is no new result. -/
theorem result_of_prepared {c : Classification} (h : (w.prepared a).result = some c) :
    w.session.result = some c := by
  cases a with
  | activate _ => cases h
  | _ => exact h

/-- A notification has the active editor scanned again. -/
theorem Notifies.session_step (h : w.Notifies a) :
    (w.step a).1.session = ((w.prepared a).update (w.step a).1.activeEditor).1 := by
  cases h with
  | loadSettings => rfl
  | selectionChanged => rfl
  | anySettingsChanged => rfl
  | toggle => rfl
  | update => rfl
  | settingsChanged hk hrelevant =>
    rw [step_settingsChanged_of_relevant (isRelevantChange_some_iff.mpr ⟨_, hk, hrelevant⟩)]
    rfl
  | @activate i hi =>
    have hactive : w.editors[i]? = some w.editors[i] := List.getElem?_eq_getElem hi
    simp only [step, Workspace.activate, hactive]
    show (w.session.activate w.editors[i]).1 = (Session.update w.editors[i]? _).1
    rw [hactive]
    rfl

/-- Every other action leaves the session as it is. -/
theorem session_step_of_not_notifies (h : ¬w.Notifies a) : (w.step a).1.session = w.session := by
  cases a with
  | loadSettings => exact absurd .loadSettings h
  | selectionChanged => exact absurd .selectionChanged h
  | toggle => exact absurd .toggle h
  | update => exact absurd .update h
  | settingsChanged keys =>
    cases keys with
    | none => exact absurd .anySettingsChanged h
    | some keys =>
      have hirrelevant : isRelevantChange (some keys) = false := by
        refine Bool.eq_false_iff.mpr fun hrelevant => ?_
        obtain ⟨k, hk, hkey⟩ := isRelevantChange_some_iff.mp hrelevant
        exact h (.settingsChanged hk hkey)
      rw [step_settingsChanged_of_irrelevant hirrelevant]
  | activate i =>
    cases i with
    | none => rfl
    | some i =>
      have hnone : w.editors[i]? = none :=
        List.getElem?_eq_none (Nat.le_of_not_lt fun hi => h (.activate hi))
      simp only [step, Workspace.activate, hnone]
  | _ => rfl

/-- After a notification the session reflects the active editor. -/
theorem Notifies.reflects_step (h : w.Notifies a) {e : Editor}
    (he : (w.step a).1.activeEditor = some e) : (w.step a).1.session.Reflects e := by
  rw [h.session_step, he]
  exact Session.reflects_update _ e

/-- A notification counts and draws once when the language of the active editor is enabled, and
otherwise not at all. -/
theorem Notifies.counts_step (h : w.Notifies a) {e : Editor}
    (he : (w.step a).1.activeEditor = some e) :
    ((w.step a).1.session.settings.supports e.document.language = true →
      (w.step a).1.session.scans = w.session.scans + 1 ∧
        (w.step a).1.session.view.draws = w.session.view.draws + 1) ∧
      ((w.step a).1.session.settings.supports e.document.language = false →
        (w.step a).1.session.scans = w.session.scans ∧
          (w.step a).1.session.view = w.session.view) := by
  obtain ⟨hsettings, -⟩ := (w.prepared a).update_config (some e)
  rw [h.session_step, he, hsettings, ← w.prepared_scans a, ← w.prepared_view a]
  refine ⟨fun hlang => ?_, fun hlang => ?_⟩
  · rw [Session.update_supported hlang]
    exact ⟨rfl, rfl⟩
  · rw [Session.update_unsupported hlang]
    exact ⟨rfl, rfl⟩

/-! ## What a run leaves in the session

The last notification of a run is followed by actions of which the session takes no notice. -/

/-- The active editor, if there was one, as it was at the last notification of a run. -/
inductive LastSeen (w : Workspace) : List Action → Option Editor → Prop where
  | notified {as : List Action} {a : Action} (h : (w.run as).Notifies a) :
      LastSeen w (as ++ [a]) (w.run (as ++ [a])).activeEditor
  | silent {as : List Action} {a : Action} {editor : Option Editor} (h : ¬(w.run as).Notifies a)
      (before : LastSeen w as editor) : LastSeen w (as ++ [a]) editor

/-- A session holds what the rescan at its last notification left. -/
theorem LastSeen.reflects {as : List Action} {e : Editor} (h : w.LastSeen as (some e)) :
    (w.run as).session.Reflects e := by
  generalize heditor : some e = editor at h
  -- by the last step: a notification starts over, and a silent action leaves all as it was
  induction h with
  | @notified as a h =>
    rw [run_concat] at heditor ⊢
    exact h.reflects_step heditor.symm
  | silent h _ ih =>
    rw [run_concat, session_step_of_not_notifies h]
    exact ih heditor

/-- **A session is scanned again exactly when it is notified, and without regard to its history.** -/
theorem rescans_exactly_when_notified :
    (∀ (w : Workspace) (a : Action) (e : Editor), w.Notifies a → (w.step a).1.activeEditor = some e →
      let s := w.session
      let t := (w.step a).1.session
      (t.settings.supports e.document.language = true →
        t.result = some (t.settings.classify e.selections t.wrapColumn
          (e.document.spans t.settings.foldStyle.mode)) ∧
          t.scans = s.scans + 1 ∧ t.view.draws = s.view.draws + 1) ∧
        (t.settings.supports e.document.language = false →
          t.result = none ∧ t.scans = s.scans ∧ t.view = s.view)) ∧
      (∀ (w : Workspace) (a : Action), ¬w.Notifies a → (w.step a).1.session = w.session) ∧
      ∀ (v w : Workspace) (as bs : List Action) (e : Editor),
        v.LastSeen as (some e) → w.LastSeen bs (some e) →
        let s := (v.run as).session
        let t := (w.run bs).session
        s.settings = t.settings → s.wrapColumn = t.wrapColumn →
          s.result = t.result ∧ (s.settings.supports e.document.language = true →
            s.view.unfolded = t.view.unfolded ∧ s.view.faded = t.view.faded ∧
              s.view.folded = t.view.folded) := by
  refine ⟨fun w a e h he => ?_, fun w a h => session_step_of_not_notifies h,
    fun v w as bs e hv hw hsettings hwrap => hv.reflects.unique hw.reflects hsettings hwrap⟩
  have hreflects := h.reflects_step he
  obtain ⟨hcounted, hkept⟩ := h.counts_step he
  refine ⟨fun hlang => ⟨(hreflects.supported hlang).1, hcounted hlang⟩,
    fun hlang => ⟨hreflects.unsupported hlang, hkept hlang⟩⟩

/-- Two hosts come to the same editor, one of them by way of another editor, an edit and two toggles. -/
theorem rescans_exactly_when_notified_two_runs :
    let settings : Json.Object :=
      [(Setting.supportedLanguages.key, .arr [.str "html"]), (Setting.autoFold.key, .bool true)]
    let e : Editor := { document := ⟨"class='a'", "html"⟩ }
    let v := opened { values := settings } [e]
    let w := opened { values := settings } [{ document := ⟨[], "html"⟩ }, e]
    let as : List Action := [.loadSettings] ++ [.activate (some 0)]
    let bs : List Action := [.loadSettings, .activate (some 1), .toggle, .activate (some 0),
      .edit 0 e.document] ++ [.toggle] ++ [.edit 0 ⟨[], "css"⟩]
    v.LastSeen as (some e) ∧ w.LastSeen bs (some e) ∧
      (v.run as).session.result = (w.run bs).session.result ∧
      (v.run as).session.scans = 1 ∧ (w.run bs).session.scans = 4 := by
  intro settings e v w as bs
  have hactive : (v.run as).activeEditor = some e := by rfl
  have hv : v.LastSeen as (some e) := hactive ▸ .notified (.activate (by decide))
  have hactive' : (w.run ([.loadSettings, .activate (some 1), .toggle, .activate (some 0),
      .edit 0 e.document] ++ [.toggle])).activeEditor = some e := by rfl
  have hw : w.LastSeen bs (some e) := .silent nofun (hactive' ▸ .notified .toggle)
  have hsettings : (v.run as).session.settings = (w.run bs).session.settings := by decide +kernel
  have hwrap : (v.run as).session.wrapColumn = (w.run bs).session.wrapColumn := by decide +kernel
  obtain ⟨hresult, -⟩ := rescans_exactly_when_notified.2.2 v w as bs e hv hw hsettings hwrap
  refine ⟨hv, hw, hresult, ?_, ?_⟩
  · decide +kernel
  · decide +kernel

end AttrFold.Workspace
