import AttrFold.Proofs.Workspace.Notification

/-!
# Turning automatic folding on and off

A toggle turns the switch in the settings in force, writes it to the store and has the active editor
scanned again. Two toggles take all of this back but for what was counted: the session is the one
that a single rescan would have left, with one more scan (`Session.update_flip_twice`). It does not
matter what stood in the store before, nor what became of the document since it was last scanned.

A toggle is also the only thing a session writes. What each action adds to the writes is `written`,
and a run adds what its actions add, one after the other (`writes_run`).

* **`toggle_twice_restores`** — two toggles answer with the switch turned and turned back, leave the
  settings as they were and two writes in the store, and show what one rescan shows; in no run does
  the session write anything else.
-/

namespace AttrFold

/-! ## Two turns of the switch -/

namespace Session

variable {s : Session} {e : Editor}

theorem flip_flip (s : Session) : s.flip.flip = s := by
  show { s with settings := { s.settings with autoFold := !!s.settings.autoFold } } = s
  rw [Bool.not_not]

/-- A session in which the latest scan is counted once more. -/
def recounted (s : Session) : Session :=
  { s with scans := s.scans + 1, view := { s.view with draws := s.view.draws + 1 } }

/-- **Two turns of the switch, each with a rescan, come to one rescan that counts twice.** -/
theorem update_flip_twice (hlang : s.settings.supports e.document.language = true) :
    ((s.flip.update (some e)).1.flip.update (some e)).1 = (s.update (some e)).1.recounted := by
  -- the switch decides neither whether a language is enabled nor what was scanned before
  have hfirst : (s.flip.update (some e)).1 = s.flip.scanned (s.flip.classify e) :=
    update_supported hlang
  have hback : (s.flip.scanned (s.flip.classify e)).flip = s.scanned (s.flip.classify e) := by
    show s.flip.flip.scanned (s.flip.classify e) = _
    rw [flip_flip]
  have hsecond : ((s.scanned (s.flip.classify e)).update (some e)).1
      = (s.scanned (s.flip.classify e)).scanned (s.classify e) := update_supported hlang
  rw [hfirst, hback, hsecond, update_supported hlang]
  rfl

/-- Where nothing is scanned two turns of the switch come to a rescan as well. -/
theorem update_flip_twice_of_idle {editor : Option Editor}
    (hidle : ∀ e, editor = some e → s.settings.supports e.document.language = false) :
    ((s.flip.update editor).1.flip.update editor).1 = (s.update editor).1 := by
  cases editor with
  | none => exact s.flip_flip
  | some e =>
    have hlang := hidle e rfl
    have hfirst : (s.flip.update (some e)).1 = { s.flip with result := none } :=
      update_unsupported hlang
    have hback : ({ s.flip with result := none } : Session).flip = { s with result := none } := by
      show ({ s.flip.flip with result := none } : Session) = _
      rw [flip_flip]
    rw [hfirst, hback, update_unsupported hlang]
    exact update_unsupported hlang

end Session

namespace Workspace

/-- Whether a rescan has something to scan: an active editor whose language is enabled. -/
def scansActive (w : Workspace) : Bool :=
  w.activeEditor.any fun e => w.session.settings.supports e.document.language

/-- Two toggles in a row turn the switch twice, for the same editor. -/
theorem session_toggle_twice (w : Workspace) :
    ((w.step .toggle).1.step .toggle).1.session
      = if w.scansActive then (w.step .update).1.session.recounted
        else (w.step .update).1.session := by
  show ((w.session.flip.update w.activeEditor).1.flip.update w.activeEditor).1
    = if w.scansActive then (w.session.update w.activeEditor).1.recounted
      else (w.session.update w.activeEditor).1
  cases hscans : w.scansActive with
  | true =>
    obtain ⟨e, he, hlang⟩ := (Option.any_eq_true _ _).mp hscans
    rw [he]
    exact Session.update_flip_twice hlang
  | false => exact Session.update_flip_twice_of_idle ((Option.any_eq_false _ _).mp hscans)

/-- Toggling turns the switch. -/
theorem autoFold_toggle (w : Workspace) :
    (w.step .toggle).1.session.settings.autoFold = !w.session.settings.autoFold := by
  have hflip : (w.step .toggle).1.session.settings = w.session.flip.settings :=
    (w.session.flip.update_config w.activeEditor).1
  rw [hflip]
  rfl

/-- Toggling stores the switch as it is turned. -/
theorem store_toggle (w : Workspace) : (w.step .toggle).1.store
    = w.store.set Setting.autoFold.key (.bool !w.session.settings.autoFold) := rfl

/-- The second toggle writes the switch as it stood before the first one. -/
theorem store_toggle_twice (w : Workspace) : ((w.step .toggle).1.step .toggle).1.store
    = (w.store.set Setting.autoFold.key (.bool !w.session.settings.autoFold)).set Setting.autoFold.key
        (.bool w.session.settings.autoFold) := by
  rw [store_toggle, autoFold_toggle, store_toggle, Bool.not_not]

/-- Counting once more changes nothing but the two counts. -/
theorem shown_toggle_twice (w : Workspace) :
    let second := ((w.step .toggle).1.step .toggle).1.session
    let once := (w.step .update).1.session
    second.settings = once.settings ∧ second.wrapColumn = once.wrapColumn ∧ second.result = once.result
      ∧ second.view.unfolded = once.view.unfolded ∧ second.view.faded = once.view.faded
      ∧ second.view.folded = once.view.folded := by
  intro second once
  have hsession : second = if w.scansActive then once.recounted else once := w.session_toggle_twice
  rw [hsession]
  split <;> exact ⟨rfl, rfl, rfl, rfl, rfl, rfl⟩

/-- A rescan is counted, and drawn, when it has something to scan. -/
theorem counts_update (w : Workspace) :
    (w.step .update).1.session.scans = w.session.scans + (if w.scansActive then 1 else 0)
      ∧ (w.step .update).1.session.view.draws
        = w.session.view.draws + (if w.scansActive then 1 else 0) := by
  show (w.session.update w.activeEditor).1.scans = _ ∧
    (w.session.update w.activeEditor).1.view.draws = _
  unfold scansActive
  cases w.activeEditor with
  | none => exact ⟨rfl, rfl⟩
  | some e =>
    rw [Option.any_some]
    cases hlang : w.session.settings.supports e.document.language with
    | true =>
      rw [Session.update_supported hlang]
      exact ⟨rfl, rfl⟩
    | false =>
      rw [Session.update_unsupported hlang]
      exact ⟨rfl, rfl⟩

/-- Two toggles are counted twice where one rescan is counted once. -/
theorem counts_toggle_twice (w : Workspace) :
    let second := ((w.step .toggle).1.step .toggle).1.session
    second.scans = w.session.scans + (if w.scansActive then 2 else 0)
      ∧ second.view.draws = w.session.view.draws + (if w.scansActive then 2 else 0) := by
  intro second
  obtain ⟨hscans, hdraws⟩ := w.counts_update
  rw [show second = _ from w.session_toggle_twice]
  split
  · next hactive =>
    rw [if_pos hactive] at hscans hdraws
    exact ⟨congrArg (· + 1) hscans, congrArg (· + 1) hdraws⟩
  · next hidle =>
    rw [if_neg hidle] at hscans hdraws
    exact ⟨hscans, hdraws⟩

/-! ## What is written -/

/-- What an action adds to the writes of the store: a toggle the switch as it was turned, and a
write from outside itself. -/
def written (w : Workspace) : Action → List (Text × Json)
  | .toggle => [(Setting.autoFold.key, .bool !w.session.settings.autoFold)]
  | .set key value => [(key, value)]
  | _ => []

/-- What a run adds to the writes of the store. -/
def writtenInRun (w : Workspace) : List Action → List (Text × Json)
  | [] => []
  | a :: as => w.written a ++ (w.step a).1.writtenInRun as

/-- A step writes what its action does. -/
theorem writes_step (w : Workspace) (a : Action) :
    (w.step a).1.store.writes = w.store.writes ++ w.written a := by
  cases a with
  | toggle => rfl
  | set key value => rfl
  | put values => exact (List.append_nil _).symm
  | remove key => exact (List.append_nil _).symm
  | _ =>
    -- no other action touches the store
    refine (congrArg MemoryStore.writes (store_step_of_ne_toggle ?_ ?_)).trans
      (List.append_nil _).symm
    · exact nofun
    · exact nofun

/-- A run writes what its actions do, one after the other. -/
theorem writes_run (w : Workspace) (as : List Action) :
    (w.run as).store.writes = w.store.writes ++ w.writtenInRun as := by
  induction as generalizing w with
  | nil => exact (List.append_nil _).symm
  | cons a as ih =>
    show ((w.step a).1.run as).store.writes = _
    rw [ih, writes_step, List.append_assoc, writtenInRun]

/-- **Two toggles restore the settings and come to one rescan.** The first one answers with the
switch turned, the second one with the switch as it was. The settings and the column at which lines
are wrapped are those from before; two writes under the key of the switch are new, and other keys
have the values that they had. What the session shows is what one rescan shows, and scans and draws
went up by two if there was something to scan, and otherwise not at all. In every run the writes of
the store are those of the toggles, besides the ones that come from outside. -/
theorem toggle_twice_restores (w : Workspace) :
    let on := w.session.settings.autoFold
    let first := (w.step .toggle).1
    let second := (first.step .toggle).1
    let once := (w.step .update).1
    let key := Setting.autoFold.key
    (first.session.settings.autoFold = !on ∧ second.session.settings.autoFold = on)
      ∧ second.session.settings = w.session.settings
      ∧ second.session.wrapColumn = w.session.wrapColumn
      ∧ second.store.writes = w.store.writes ++ [(key, .bool !on), (key, .bool on)]
      ∧ (∀ k, k ≠ key → second.store.values.get? k = w.store.values.get? k)
      ∧ second.session.result = once.session.result
      ∧ second.session.view.unfolded = once.session.view.unfolded
      ∧ second.session.view.faded = once.session.view.faded
      ∧ second.session.view.folded = once.session.view.folded
      ∧ second.session.scans = w.session.scans + (if w.scansActive then 2 else 0)
      ∧ second.session.view.draws = w.session.view.draws + (if w.scansActive then 2 else 0)
      ∧ ∀ as, (w.run as).store.writes = w.store.writes ++ w.writtenInRun as := by
  intro on first second once key
  have hfirst : first.session.settings.autoFold = !on := w.autoFold_toggle
  have hsecond : second.session.settings.autoFold = on := by
    rw [show second = (first.step .toggle).1 from rfl, autoFold_toggle, hfirst, Bool.not_not]
  have hstore : second.store = (w.store.set key (.bool !on)).set key (.bool on) := w.store_toggle_twice
  have hwrites : second.store.writes = w.store.writes ++ [(key, .bool !on), (key, .bool on)] := by
    rw [hstore]
    exact List.append_assoc _ _ _
  have hothers : ∀ k, k ≠ key → second.store.values.get? k = w.store.values.get? k := by
    intro k hk
    rw [hstore]
    show ((w.store.values.put key (.bool !on)).put key (.bool on)).get? k = _
    rw [Entries.get?_put_of_ne hk, Entries.get?_put_of_ne hk]
  obtain ⟨hsettings, hwrap, hresult, hunfolded, hfaded, hfolded⟩ := w.shown_toggle_twice
  obtain ⟨hscans, hdraws⟩ := w.counts_toggle_twice
  -- a rescan alone keeps the settings, so both ways lead to the same ones
  have honce : once.session.settings = w.session.settings
      ∧ once.session.wrapColumn = w.session.wrapColumn := w.session.update_config _
  exact ⟨⟨hfirst, hsecond⟩, hsettings.trans honce.1, hwrap.trans honce.2, hwrites, hothers, hresult,
    hunfolded, hfaded, hfolded, hscans, hdraws, w.writes_run⟩

/-- The stored switch is malformed, and the document was edited since its only scan. -/
theorem toggle_twice_restores_after_edit :
    let settings : Json.Object :=
      [(Setting.supportedLanguages.key, .arr [.str "html"]), (Setting.autoFold.key, .str "yes"),
        (Setting.foldStyle.key, .str "QUOTED")]
    let w := (opened { values := settings } [{ document := ⟨"class='a'", "html"⟩ }]).run
      [.loadSettings, .activate (some 0), .edit 0 ⟨"class='b'class='c'", "html"⟩]
    let second := ((w.step .toggle).1.step .toggle).1
    Setting.foldStyle.key ≠ Setting.autoFold.key ∧
      second.store.values.get? Setting.foldStyle.key = w.store.values.get? Setting.foldStyle.key ∧
      second.store.writes =
        [(Setting.autoFold.key, .bool true), (Setting.autoFold.key, .bool false)] ∧
      second.session.settings = w.session.settings ∧ w.session.scans = 1 ∧
      second.session.scans = 3 ∧ second.session.result.map Classification.size = some 2 := by
  intro settings w second
  have hne : Setting.foldStyle.key ≠ Setting.autoFold.key := by decide
  have hoff : w.session.settings.autoFold = false := by decide +kernel
  have honce : (w.step .update).1.session.result.map Classification.size = some 2 := by decide +kernel
  have hscans : w.session.scans = 1 ∧ w.scansActive = true := by decide +kernel
  obtain ⟨-, hsettings, -, hwrites, hothers, hresult, -, -, -, hcount, -⟩ := toggle_twice_restores w
  rw [hoff] at hwrites
  rw [hscans.1, hscans.2] at hcount
  rw [← hresult] at honce
  exact ⟨hne, hothers _ hne, hwrites, hsettings, hscans.1, hcount, honce⟩

end Workspace

end AttrFold
