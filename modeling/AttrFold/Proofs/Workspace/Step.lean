import AttrFold.Workspace

/-!
# Steps and runs of a host

What a step does to the host around its session: which editors there are, which of them is active, and
what is in the store. Runs go step by step, and what each step keeps is kept by a run (`run_keeps`).
-/

namespace AttrFold.Workspace

/-! ## Runs -/

/-- A host with a new session, in which no editor is active yet. -/
def opened (store : MemoryStore) (editors : List Editor) : Workspace := { store, editors }

/-- The workspace after actions, one after the other. -/
def run (w : Workspace) : List Action → Workspace
  | [] => w
  | a :: as => (w.step a).1.run as

/-- Two runs after each other are one. -/
theorem run_append (w : Workspace) (as bs : List Action) : w.run (as ++ bs) = (w.run as).run bs := by
  induction as generalizing w with
  | nil => rfl
  | cons a as ih => exact ih (w.step a).1

theorem run_concat (w : Workspace) (as : List Action) (a : Action) :
    w.run (as ++ [a]) = ((w.run as).step a).1 :=
  w.run_append as [a]

/-- The induction over runs, done once for every invariant. -/
theorem run_keeps {P : Workspace → Prop} (hstep : ∀ w a, P w → P (w.step a).1) {w : Workspace}
    (h : P w) (as : List Action) : P (w.run as) := by
  induction as generalizing w with
  | nil => exact h
  | cons a as ih => exact ih (hstep w a h)

variable {w : Workspace} {a : Action}

/-! ## Changes of settings

The one action that depends on what it is told. -/

/-- A change with named keys matters if one of the keys does. -/
theorem isRelevantChange_some_iff {keys : List Text} :
    isRelevantChange (some keys) = true ↔ ∃ k ∈ keys, Setting.isRelevantKey k = true :=
  List.any_eq_true

/-- A change that matters loads the settings. -/
theorem step_settingsChanged_of_relevant {keys : Option (List Text)}
    (h : isRelevantChange keys = true) : w.step (.settingsChanged keys) = w.step .loadSettings := by
  simp only [step, h, if_true]

theorem step_settingsChanged_of_irrelevant {keys : Option (List Text)}
    (h : isRelevantChange keys = false) : w.step (.settingsChanged keys) = (w, []) := by
  simp only [step, h, Bool.false_eq_true, if_false]

/-! ## The editors

No action closes an editor, and none takes the active one away. -/

/-- No action opens or closes an editor. -/
theorem length_editors_step (w : Workspace) (a : Action) :
    (w.step a).1.editors.length = w.editors.length := by
  cases a with
  | select i _ => exact List.length_modify _ w.editors i
  | edit i _ => exact List.length_modify _ w.editors i
  | activate i =>
    cases i with
    | none => rfl
    | some i =>
      simp only [step, activate]
      cases w.editors[i]? <;> rfl
  | settingsChanged keys =>
    simp only [step]
    cases isRelevantChange keys <;> rfl
  | _ => rfl

/-- The active editor stays, or becomes another one of those that are open. -/
theorem active_step (w : Workspace) (a : Action) :
    (w.step a).1.active = w.active ∨ ∃ i < w.editors.length, (w.step a).1.active = some i := by
  cases a with
  | activate i =>
    cases i with
    | none => exact .inl rfl
    | some i =>
      simp only [step, activate]
      cases hi : w.editors[i]? with
      | none => exact .inl rfl
      | some e => exact .inr ⟨i, (List.getElem?_eq_some_iff.mp hi).1, rfl⟩
  | settingsChanged keys =>
    simp only [step]
    cases isRelevantChange keys <;> exact .inl rfl
  | _ => exact .inl rfl

/-- There is an active editor if the active number is that of an open one. -/
theorem isSome_activeEditor_iff :
    w.activeEditor.isSome = true ↔ ∃ i, w.active = some i ∧ i < w.editors.length := by
  unfold activeEditor
  cases w.active with
  | none => simp
  | some i => simp

theorem isSome_activeEditor_step (h : w.activeEditor.isSome = true) :
    (w.step a).1.activeEditor.isSome = true := by
  obtain ⟨i, hactive, hi⟩ := isSome_activeEditor_iff.mp h
  refine isSome_activeEditor_iff.mpr ?_
  rw [length_editors_step]
  rcases w.active_step a with hkept | ⟨j, hj, hnew⟩
  · exact ⟨i, hkept.trans hactive, hi⟩
  · exact ⟨j, hnew, hj⟩

/-! ## The store

It is written from outside, and from inside only when automatic folding is turned on or off. -/

/-- The actions that change the store from outside of the session. -/
inductive ChangesStore : Action → Prop where
  | put (values : List (Text × Json)) : ChangesStore (.put values)
  | remove (key : Text) : ChangesStore (.remove key)
  | set (key : Text) (value : Json) : ChangesStore (.set key value)

/-- A change from outside touches nothing but the store. -/
theorem ChangesStore.exists_step (h : ChangesStore a) : ∃ store, (w.step a).1 = { w with store } := by
  cases h <;> exact ⟨_, rfl⟩

/-- Actions on the store change nothing else. -/
theorem exists_run_of_changesStore {changes : List Action} (h : ∀ a ∈ changes, ChangesStore a) :
    ∃ store, w.run changes = { w with store } := by
  induction changes generalizing w with
  | nil => exact ⟨w.store, rfl⟩
  | cons a changes ih =>
    obtain ⟨first, hfirst⟩ := (h a List.mem_cons_self).exists_step (w := w)
    obtain ⟨store, hrest⟩ := ih (w := (w.step a).1) fun b hb => h b (List.mem_cons_of_mem _ hb)
    rw [hfirst] at hrest
    exact ⟨store, by rw [run, hfirst, hrest]⟩

/-- Only toggling and actions on the store change the store. -/
theorem store_step_of_ne_toggle (h : ¬ChangesStore a) (hne : a ≠ .toggle) :
    (w.step a).1.store = w.store := by
  cases a with
  | put values => exact absurd (.put values) h
  | remove key => exact absurd (.remove key) h
  | set key value => exact absurd (.set key value) h
  | toggle => exact absurd rfl hne
  | activate i =>
    cases i with
    | none => rfl
    | some i =>
      simp only [step, activate]
      cases w.editors[i]? <;> rfl
  | settingsChanged keys =>
    simp only [step]
    cases isRelevantChange keys <;> rfl
  | _ => rfl

end AttrFold.Workspace
