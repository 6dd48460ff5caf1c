import AttrFold.Proofs.Cli.Watch
import AttrFold.Proofs.Settings
import AttrFold.Proofs.Watch

/-!
# A watching command and its watcher

A watching command takes batches as they come, each in the tree that it finds, and handles it in one
session. A watcher only knows the batches that are announced, and that a call fails. The two are
one: what a command takes until the user interrupts it is what a watcher hands on that is started
and waited for, and of all that the command reports the part that is the watcher's is what the
watcher reports.

## The crux

Whether a call fails is up to the tree and the settings, so the calls that fail are found along the run
(`exists_reports_run`). Nothing that a scan or the settings report is taken for a report of the watcher
(`Quiet`), and a call reports a failure at most once, as the last thing (`exists_reports_handle`).

* **`exists_run_of_runWatch`** — the calls and the reports of a watching command are those of a watcher.
-/

namespace AttrFold

/-- Whether an event is a report of a watcher: that it starts or stops, that it hands on a batch, or
that the call failed. -/
def Event.isOfWatcher : Event → Bool
  | .watchStarted _ | .watchStopped _ | .changesDetected _ | .callbackFailed => true
  | _ => false

/-- None of the events is a report of a watcher. -/
def Quiet (events : List Event) : Prop := events.filter Event.isOfWatcher = []

namespace Quiet

variable {events more : List Event} {fs : Files} {store : Path} {members : Json.Object} {src : Source}

theorem append (h : Quiet events) (hmore : Quiet more) : Quiet (events ++ more) := by
  rw [Quiet, List.filter_append, h, hmore, List.append_nil]

/-- What reading the settings file reports is about this file. -/
theorem readAll (h : FileStore.readAll fs store = .ok (members, events)) : Quiet events := by
  unfold FileStore.readAll at h
  split at h
  · cases h
    rfl
  · cases h
  · cases h
    rfl
  · split at h <;> cases h <;> rfl

/-- Reading a settings file announces nothing of the watcher. -/
theorem source (h : FileStore.source fs store = .ok src) : Quiet src.events := by
  unfold FileStore.source at h
  split at h
  · cases h
  · next members events hread =>
    cases h
    exact readAll hread

theorem refusal (k : Setting) (v : Json) : Quiet [Settings.refusal k v] := by
  unfold Settings.refusal
  split <;> rfl

/-- Loading settings announces nothing of the watcher. -/
theorem settings_load (h : Quiet src.events) : Quiet (Settings.load src).2 := by
  show Quiet (Settings.readEach src Setting.all).2
  rw [Settings.events_readEach, Quiet, List.filter_flatMap, List.flatMap_eq_nil_iff]
  intro k _
  cases Settings.refused? src k with
  | none => exact h.append rfl
  | some v => exact h.append (refusal k v)

/-- A rescan announces nothing of the watcher. -/
theorem update (editor : Option Editor) (s : Session) : Quiet (s.update editor).2 := by
  unfold Session.update
  split
  · rfl
  · split <;> rfl

/-- A session that loads its settings announces nothing of the watcher. -/
theorem load (h : Quiet src.events) (editor : Option Editor) (s : Session) :
    Quiet (s.load src editor).2 := by
  have hconfigure : Quiet (s.configure src).2 := ((settings_load h).append h).append rfl
  exact hconfigure.append (update editor _)

end Quiet

namespace Watcher

/-- Calls that are still to come are numbered from some number on, and only whether these fail
matters. -/
theorem deliver_congr {fails fails' : Nat → Bool} {number : Nat}
    (h : ∀ k, number ≤ k → fails k = fails' k) (batches : List (List Change)) :
    deliver fails number batches = deliver fails' number batches := by
  induction batches generalizing number with
  | nil => rfl
  | cons batch batches ih =>
    rw [deliver, deliver, ih h, ih fun k hk => h k (Nat.le_of_succ_le hk),
      h number (Nat.le_refl number)]

end Watcher

namespace Cli.Watching

variable {fs : Files} {store : Path}

/-! ## What a watching command takes -/

/-- The changes that are announced until the user interrupts. -/
def announced (batches : List Batch) : List (List Change) :=
  (batches.takeWhile fun b => !b.isInterrupt).map Batch.changes

/-- What is taken are the batches that are announced, each as the files that it concerns. -/
theorem map_snd_taken (fs : Files) (batches : List Batch) :
    (taken fs batches).map Prod.snd = (announced batches).map Change.reported := by
  induction batches generalizing fs with
  | nil => rfl
  | cons b bs ih =>
    unfold taken announced
    cases hinterrupt : b.isInterrupt with
    | true => simp [hinterrupt]
    | false =>
      rw [List.takeWhile_cons_of_pos (by simp [hinterrupt])]
      exact congrArg (Change.reported b.changes :: ·) (ih (b.apply fs))

/-! ## What a watching command reports -/

/-- The reports of the watcher among the events. -/
def reports (w : Watching) : List Event := w.events.filter Event.isOfWatcher

/-- Of the events that a command logs, those of the watcher are its reports. -/
theorem reports_report (w : Watching) (events : List Event) :
    (w.report events).reports = w.reports ++ events.filter Event.isOfWatcher :=
  List.filter_append ..

theorem reports_scanFile (w : Watching) (p : Path) (d : Document) :
    (w.scanFile p d).reports = w.reports := by
  have hquiet : Quiet (w.session.activate ⟨d, []⟩).2 := .update _ _
  show (w.events ++ (w.session.activate ⟨d, []⟩).2).filter Event.isOfWatcher = _
  rw [List.filter_append, hquiet, List.append_nil]
  rfl

/-- Going through the files of a batch reports a failure at most once, at the end. -/
theorem exists_reports_scanFiles (fs : Files) (w : Watching) (ps : List Path) : ∃ failed : Bool,
    (scanFiles fs w ps).reports = w.reports ++ if failed then [.callbackFailed] else [] := by
  induction ps generalizing w with
  | nil => exact ⟨false, (List.append_nil _).symm⟩
  | cons p ps ih =>
    have hskipped : ∀ e, (w.report [.fileSkipped p e]).reports = w.reports :=
      fun e => (reports_report w _).trans (List.append_nil _)
    unfold scanFiles
    split
    · next d hopen =>
      rw [← reports_scanFile w p d]
      exact ih _
    · rw [← hskipped .notFound]
      exact ih _
    · rw [← hskipped .notUtf8]
      exact ih _
    · exact ⟨true, reports_report w _⟩

/-- A call reports a failure at most once, after all else. -/
theorem exists_reports_handle (fs : Files) (store : Path) (w : Watching) (files : List Path) :
    ∃ failed : Bool, (w.handle fs store files).reports
      = w.reports ++ if failed then [.callbackFailed] else [] := by
  unfold handle
  split
  · exact ⟨true, reports_report w _⟩
  · next src hsource =>
    have hquiet := Quiet.load (.source hsource) w.editor w.session
    obtain ⟨failed, hfailed⟩ := exists_reports_scanFiles fs
      ({ w with session := (w.session.load src w.editor).1 }.report (w.session.load src w.editor).2)
      (files.mergeSort fun p q => pathsLe p.components q.components)
    refine ⟨failed, hfailed.trans ?_⟩
    rw [reports_report, hquiet, List.append_nil]
    rfl

/-- The reports of a run are those of a watcher whose calls fail where those of the run do. -/
theorem exists_reports_run (store directory : Path) (fs : Files) (w : Watching) (number : Nat)
    (batches : List Batch) : ∃ fails : Nat → Bool,
      (run store directory fs w batches).2.reports
        = w.reports ++ (Watcher.deliver fails number (announced batches)).events
          ++ if batches.any Batch.isInterrupt then [] else [.watchStopped directory] := by
  induction batches generalizing fs w number with
  | nil => exact ⟨fun _ => false, by simp [run, reports_report, announced, Watcher.deliver]; rfl⟩
  | cons b bs ih =>
    unfold run
    dsimp only
    cases hinterrupt : b.isInterrupt with
    | true =>
      refine ⟨fun _ => false, ?_⟩
      simp [announced, hinterrupt, Watcher.deliver, reports]
    | false =>
      have hannounced : announced (b :: bs) = b.changes :: announced bs := by
        simp [announced, hinterrupt]
      have hany : (b :: bs).any Batch.isInterrupt = bs.any Batch.isInterrupt := by
        simp [hinterrupt]
      rw [hannounced, hany, if_neg Bool.false_ne_true]
      unfold take
      dsimp only
      cases hempty : (Change.reported b.changes).isEmpty with
      | true =>
        obtain ⟨fails, hfails⟩ := ih (b.apply fs) w number
        refine ⟨fails, ?_⟩
        rw [Watcher.deliver, if_pos hempty]
        exact hfails
      | false =>
        let detected := w.report [.changesDetected (Change.reported b.changes).length]
        obtain ⟨failed, hfailed⟩ :=
          exists_reports_handle (b.apply fs) store detected (Change.reported b.changes)
        have hdetected : detected.reports
            = w.reports ++ [.changesDetected (Change.reported b.changes).length] := reports_report w _
        obtain ⟨fails, hfails⟩ := ih (b.apply fs)
          (detected.handle (b.apply fs) store (Change.reported b.changes)) (number + 1)
        -- the number of this call is not used by any later one
        let fails' : Nat → Bool := fun k => if k = number then failed else fails k
        have hlater : Watcher.deliver fails (number + 1) (announced bs)
            = Watcher.deliver fails' (number + 1) (announced bs) :=
          Watcher.deliver_congr (fun k hk => (if_neg (by omega)).symm) (announced bs)
        have hthis : fails' number = failed := if_pos rfl
        refine ⟨fails', hfails.trans ?_⟩
        rw [hfailed, hdetected, hlater, Watcher.deliver]
        simp [hempty, hthis]

/-- What is asked of the watcher of a watching command: it is not stopped when the user interrupts. -/
def requests (batches : List Batch) : List Request :=
  if batches.any Batch.isInterrupt then [.start, .wait] else [.start, .wait, .stop]

/-- A watcher of which this is asked starts, hands on all batches, and stops unless it is
interrupted. -/
theorem run_requests (fails : Nat → Bool) (directory : Path) (pending : List (List Change))
    (batches : List Batch) :
    (Watcher.run fails { directory, pending } (requests batches)).2
      = ⟨(Watcher.deliver fails 0 pending).calls,
        [.watchStarted directory] ++ (Watcher.deliver fails 0 pending).events
          ++ if batches.any Batch.isInterrupt then [] else [.watchStopped directory]⟩ := by
  unfold requests
  cases batches.any Batch.isInterrupt with
  | true => simp [Watcher.run, Watcher.answer, Watcher.start, Watcher.wait]
  | false => simp [Watcher.run, Watcher.answer, Watcher.start, Watcher.wait, Watcher.stop]

/-- **A watching command does what its watcher does.** What it takes are the calls of a watcher of
the directory to which the batches come that are announced before the user interrupts, and what it
reports of the watcher is what this watcher reports. -/
theorem exists_run_of_runWatch (fs : Files) (store directory : Path) (batches : List Batch) :
    ∃ fails : Nat → Bool,
      let w : Watcher := { directory, pending := announced batches }
      let done := (w.run fails (requests batches)).2
      done.calls = ((taken fs batches).map Prod.snd).filter (fun files => !files.isEmpty) ∧
        done.events = (runWatch fs store directory batches).events.filter Event.isOfWatcher := by
  let first : Watching := {
    output := markupLine ("[green]Watching[/green] " ++ directory.text ++ " (Ctrl+C to stop)")
    events := [.watchStarted directory] }
  obtain ⟨fails, hreports⟩ := exists_reports_run store directory fs first 0 batches
  refine ⟨fails, ?_⟩
  intro w done
  have hdone : done = _ := run_requests fails directory (announced batches) batches
  rw [hdone]
  refine ⟨?_, hreports.symm⟩
  rw [map_snd_taken]
  exact Watcher.calls_deliver fails 0 (announced batches)

end Cli.Watching

end AttrFold
