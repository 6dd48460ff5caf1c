import Mathlib.Data.List.Induction
import AttrFold.Proofs.Workspace.Notification

/-!
# Coherence of a session

Result, counts, view and index of a session are set at different places of a rescan, and some ways
through it leave early. All the same they fit together after every run from a new session: each scan was
drawn, and a result comes from the editor that the session last saw and is what the view displays.

* **`coherent_run`** — counts agree, and a result has an active editor, is displayed, and has in its
  index exactly its faded and folded spans in the order of the document.
-/

namespace AttrFold.Workspace

variable {w : Workspace}

/-! ## The invariant

What a notification does to the session is a rescan of the active editor, or nothing when there is none;
in that case there was no result either. -/

/-- A host is coherent when each scan of its session was drawn, and a result has an active editor. -/
structure Coherent (w : Workspace) : Prop where
  drawn : w.session.scans = w.session.view.draws
  active : w.session.result.isSome = true → w.activeEditor.isSome = true

/-- A workspace that was just opened is coherent. -/
theorem coherent_opened (store : MemoryStore) (editors : List Editor) :
    (opened store editors).Coherent := ⟨rfl, nofun⟩

/-- Every action keeps a workspace coherent. -/
theorem Coherent.step (h : w.Coherent) (a : Action) : (w.step a).1.Coherent := by
  by_cases hnotifies : w.Notifies a
  · have hdrawn : (w.prepared a).scans = (w.prepared a).view.draws := by
      rw [prepared_scans, prepared_view]
      exact h.drawn
    refine ⟨?_, fun hresult => ?_⟩
    · rw [hnotifies.session_step]
      exact Session.update_scans hdrawn _
    · cases hactive : (w.step a).1.activeEditor with
      | some e => rfl
      | none =>
        -- without an active editor the result is the one from before
        rw [hnotifies.session_step, hactive] at hresult
        obtain ⟨c, hc⟩ := Option.isSome_iff_exists.mp hresult
        have hbefore := h.active (Option.isSome_iff_exists.mpr ⟨c, w.result_of_prepared hc⟩)
        rw [← hactive]
        exact isSome_activeEditor_step hbefore
  · refine ⟨?_, fun hresult => isSome_activeEditor_step (h.active ?_)⟩
    · rw [session_step_of_not_notifies hnotifies]
      exact h.drawn
    · rwa [session_step_of_not_notifies hnotifies] at hresult

/-- A result after a run comes from the editor that was last seen. -/
theorem exists_lastSeen_of_result (store : MemoryStore) (editors : List Editor) (as : List Action)
    (h : ((opened store editors).run as).session.result.isSome = true) :
    ∃ e, (opened store editors).LastSeen as (some e) := by
  induction as using List.reverseRecOn with
  | nil => cases h
  | append_singleton as a ih =>
    have hcoherent := run_keeps (fun _ b hw => hw.step b) (coherent_opened store editors) (as ++ [a])
    by_cases hnotifies : ((opened store editors).run as).Notifies a
    · obtain ⟨e, he⟩ := Option.isSome_iff_exists.mp (hcoherent.active h)
      exact ⟨e, he ▸ .notified hnotifies⟩
    · rw [run_concat, session_step_of_not_notifies hnotifies] at h
      obtain ⟨e, hseen⟩ := ih h
      exact ⟨e, .silent hnotifies hseen⟩

/-- **A session is coherent after every run.** -/
theorem coherent_run (store : MemoryStore) (editors : List Editor) (as : List Action) :
    let w := (opened store editors).run as
    w.session.scans = w.session.view.draws ∧
      ∀ c, w.session.result = some c →
        w.activeEditor.isSome = true ∧
        w.session.view.unfolded = c.unfolded.map Span.range ∧
        w.session.view.faded = c.faded.map Span.range ∧
        w.session.view.folded = c.folded.map Span.range ∧
        ∃ e, (opened store editors).LastSeen as (some e) ∧
          c.Shares (e.document.spans w.session.settings.foldStyle.mode) := by
  intro w
  have hcoherent := run_keeps (fun _ b hw => hw.step b) (coherent_opened store editors) as
  refine ⟨hcoherent.drawn, fun c hc => ?_⟩
  have hresult : w.session.result.isSome = true := Option.isSome_iff_exists.mpr ⟨c, hc⟩
  obtain ⟨e, hseen⟩ := exists_lastSeen_of_result store editors as hresult
  obtain ⟨rfl, hview⟩ := hseen.reflects.of_result hc
  exact ⟨hcoherent.active hresult, hview.unfolded, hview.faded, hview.folded, e, hseen,
    w.session.shares_classify e⟩

/-- An edit without notice leaves a result behind, which is still that of the document before. -/
theorem coherent_run_after_edit :
    let settings : Json.Object :=
      [(Setting.supportedLanguages.key, .arr [.str "html"]), (Setting.autoFold.key, .bool true),
        (Setting.foldMaxLength.key, .int 9)]
    let e : Editor := {
      document := ⟨"class='a'class='bb'\nclass='c'", "html"⟩, selections := [.cursor ⟨1, 0⟩] }
    let as : List Action := [.loadSettings, .activate (some 0), .edit 0 ⟨[], "html"⟩]
    let w := (opened { values := settings } [e]).run as
    ∃ c, w.session.result = some c ∧ w.session.view.folded = c.folded.map Span.range ∧
      (Entries.keys c.index).Nodup ∧
      (c.unfolded.length, c.faded.length, c.folded.length, c.index.length) = (1, 1, 1, 2) := by
  intro settings e as w
  obtain ⟨-, hcoherent⟩ := coherent_run { values := settings } [e] as
  have hcounts : w.session.result.map (fun c =>
      (c.unfolded.length, c.faded.length, c.folded.length, c.index.length)) = some (1, 1, 1, 2) := by
    decide +kernel
  obtain ⟨c, hc, hlengths⟩ := Option.map_eq_some_iff.mp hcounts
  obtain ⟨-, -, -, hfolded, _, -, hshares⟩ := hcoherent c hc
  exact ⟨c, hc, hfolded, hshares.nodup, hlengths⟩

end AttrFold.Workspace
