import AttrFold.Session
import AttrFold.Proofs.Classification
import AttrFold.Proofs.Span

/-!
# What a rescan leaves in a session

A rescan of an editor starts from nothing: what it leaves is fixed by the settings, the column at which
lines are wrapped and the editor (`Session.Reflects`). An earlier outcome survives only in the view, and
there only when the language is not enabled.
-/

namespace AttrFold

/-- A view displays a classification when it holds the ranges of each of its buckets. -/
structure View.Displays (v : View) (c : Classification) : Prop where
  unfolded : v.unfolded = c.unfolded.map Span.range
  faded : v.faded = c.faded.map Span.range
  folded : v.folded = c.folded.map Span.range

namespace Session

variable {s t : Session} {e : Editor}

/-- The disposition of a span in an editor. -/
def disposition (s : Session) (e : Editor) (span : Span) : Disposition :=
  s.settings.dispose e.selections (s.settings.lengthCap s.wrapColumn) span

/-- Where its language is supported, a rescan classifies the document. -/
theorem update_supported (hlang : s.settings.supports e.document.language = true) :
    (s.update (some e)).1 = s.scanned (s.classify e) := by
  simp only [update, if_pos hlang]

/-- Where its language is not supported, a rescan drops the last result. -/
theorem update_unsupported (hlang : s.settings.supports e.document.language = false) :
    (s.update (some e)).1 = { s with result := none } := by
  simp only [update, hlang, Bool.false_eq_true, if_false]

/-- A bucket holds the spans of the document with its disposition. -/
theorem bucket_classify (s : Session) (e : Editor) (x : Disposition) :
    (s.classify e).bucket x
      = (e.document.spans s.settings.foldStyle.mode).filter fun span => s.disposition e span = x :=
  s.settings.bucket_classify e.selections s.wrapColumn _ x

/-- A classification gives each span of the document its share. -/
theorem shares_classify (s : Session) (e : Editor) :
    (s.classify e).Shares (e.document.spans s.settings.foldStyle.mode) :=
  s.settings.shares_classify e.selections s.wrapColumn _ (e.document.nodup_keys_spans _)

/-- A rescan changes neither the settings nor the column at which lines are wrapped. -/
theorem update_config (s : Session) (editor : Option Editor) :
    (s.update editor).1.settings = s.settings ∧ (s.update editor).1.wrapColumn = s.wrapColumn := by
  cases editor with
  | none => exact ⟨rfl, rfl⟩
  | some e =>
    cases hlang : s.settings.supports e.document.language with
    | true => rw [update_supported hlang]; exact ⟨rfl, rfl⟩
    | false => rw [update_unsupported hlang]; exact ⟨rfl, rfl⟩

/-- A rescan counts itself just in case it draws. -/
theorem update_scans (h : s.scans = s.view.draws) (editor : Option Editor) :
    (s.update editor).1.scans = (s.update editor).1.view.draws := by
  cases editor with
  | none => exact h
  | some e =>
    cases hlang : s.settings.supports e.document.language with
    | true =>
      rw [update_supported hlang]
      exact congrArg (· + 1) h
    | false =>
      rw [update_unsupported hlang]
      exact h

/-! ## Sessions after a rescan -/

/-- A session reflects an editor when it holds what a rescan of it leaves. -/
structure Reflects (s : Session) (e : Editor) : Prop where
  supported : s.settings.supports e.document.language = true →
    s.result = some (s.classify e) ∧ s.view.Displays (s.classify e)
  unsupported : s.settings.supports e.document.language = false → s.result = none

/-- After a rescan a session reflects the editor. -/
theorem reflects_update (s : Session) (e : Editor) : (s.update (some e)).1.Reflects e := by
  obtain ⟨hsettings, -⟩ := s.update_config (some e)
  refine ⟨fun hlang => ?_, fun hlang => ?_⟩
  · rw [hsettings] at hlang
    rw [update_supported hlang]
    exact ⟨rfl, rfl, rfl, rfl⟩
  · rw [hsettings] at hlang
    rw [update_unsupported hlang]

/-- A session that reflects an editor has a result only of that editor. -/
theorem Reflects.of_result {c : Classification} (h : s.Reflects e) (hc : s.result = some c) :
    c = s.classify e ∧ s.view.Displays c := by
  cases hlang : s.settings.supports e.document.language with
  | true =>
    obtain ⟨hresult, hview⟩ := h.supported hlang
    obtain rfl : s.classify e = c := Option.some.inj (hresult.symm.trans hc)
    exact ⟨rfl, hview⟩
  | false =>
    rw [h.unsupported hlang] at hc
    cases hc

/-- Under the same settings there is one session that reflects an editor, but for its counts and for
what an earlier scan may have left in the view. -/
theorem Reflects.unique (hs : s.Reflects e) (ht : t.Reflects e) (hsettings : s.settings = t.settings)
    (hwrap : s.wrapColumn = t.wrapColumn) :
    s.result = t.result ∧ (s.settings.supports e.document.language = true →
      s.view.unfolded = t.view.unfolded ∧ s.view.faded = t.view.faded ∧
        s.view.folded = t.view.folded) := by
  have hclassify : s.classify e = t.classify e := by
    unfold classify
    rw [hsettings, hwrap]
  cases hlang : s.settings.supports e.document.language with
  | true =>
    obtain ⟨hresult, hview⟩ := hs.supported hlang
    obtain ⟨hresult', hview'⟩ := ht.supported (hsettings ▸ hlang)
    rw [← hclassify] at hresult' hview'
    refine ⟨hresult.trans hresult'.symm, fun _ => ⟨?_, ?_, ?_⟩⟩
    · exact hview.unfolded.trans hview'.unfolded.symm
    · exact hview.faded.trans hview'.faded.symm
    · exact hview.folded.trans hview'.folded.symm
  | false =>
    refine ⟨?_, nofun⟩
    rw [hs.unsupported hlang, ht.unsupported (hsettings ▸ hlang)]

end Session

end AttrFold
