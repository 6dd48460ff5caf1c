import AttrFold.Proofs.Hover
import AttrFold.Proofs.Classification.Monotone
import AttrFold.Proofs.Workspace.Notification

/-!
# What is selected stays visible

Selections are compared with spans twice, and each time in a way of its own: a rescan asks whether
one contains the other, and the index compares lines and columns when it is asked for the text at a
position. Both agree with the order of positions, so they agree with each other: a position shows a
text just in case a range that was handed to the view as faded or folded holds it
(`hover_eq_none_iff`). A cursor is a selection that a range contains as soon as it holds the
cursor's position, be it at an end.

* **`nothing_hidden_at_selections`** — after a rescan no faded or folded range contains a selection
  or lies in one, and at a cursor there is nothing to show.
-/

namespace AttrFold

/-- An empty selection lies in the ranges that hold its position. -/
theorem Selection.contains_iff_holds {sel : Selection} (hempty : sel.start = sel.stop) (r : Range) :
    r.Contains sel.toRange ↔ r.Holds sel.start := by
  show r.start ≤ sel.start ∧ sel.stop ≤ r.stop ↔ r.start ≤ sel.start ∧ sel.start ≤ r.stop
  rw [hempty]

/-- What is not left as it is does not contain a selection, and no selection contains it. -/
theorem Settings.not_contains_of_dispose {s : Settings} {selections : List Selection}
    {cap : Option Int} {span : Span} (h : s.dispose selections cap span ≠ .unfolded)
    {sel : Selection} (hsel : sel ∈ selections) :
    ¬sel.toRange.Contains span.range ∧ ¬span.range.Contains sel.toRange := by
  refine ⟨fun hcontains => h ?_, fun hcontains => h ?_⟩
  · exact dispose_of_spares (Or.inr (Or.inl ⟨sel, hsel, Or.inl hcontains⟩)) cap
  · exact dispose_of_spares (Or.inr (Or.inl ⟨sel, hsel, Or.inr hcontains⟩)) cap

/-! ## The ranges handed to the view -/

variable {r : Range}

/-- The ranges that are decorated are those of the faded and folded spans. -/
theorem View.Displays.mem_decorated_iff {v : View} {c : Classification} (h : v.Displays c) :
    r ∈ v.faded ++ v.folded ↔ ∃ span, (span ∈ c.faded ∨ span ∈ c.folded) ∧ span.range = r := by
  rw [h.faded, h.folded, ← List.map_append, List.mem_map]
  simp only [List.mem_append]

namespace Session

variable {s : Session} {e : Editor}

/-- A span that is faded or folded is one of the document, and it is not left as it is. -/
theorem of_mem_decorated {span : Span}
    (h : span ∈ (s.classify e).faded ∨ span ∈ (s.classify e).folded) :
    span ∈ e.document.spans s.settings.foldStyle.mode ∧ s.disposition e span ≠ .unfolded := by
  have hbucket : ∀ x, x ≠ .unfolded → span ∈ (s.classify e).bucket x →
      span ∈ e.document.spans s.settings.foldStyle.mode ∧ s.disposition e span ≠ .unfolded := by
    intro x hx hmem
    rw [bucket_classify, List.mem_filter, decide_eq_true_iff] at hmem
    exact ⟨hmem.1, hmem.2 ▸ hx⟩
  rcases h with hfaded | hfolded
  · exact hbucket .faded nofun hfaded
  · exact hbucket .folded nofun hfolded

namespace Reflects

variable (h : s.Reflects e) (hlang : s.settings.supports e.document.language = true)
include h hlang

/-- No decorated range holds a selection or lies in one. -/
theorem not_contains_of_mem_decorated (hr : r ∈ s.view.faded ++ s.view.folded) {sel : Selection}
    (hsel : sel ∈ e.selections) : ¬sel.toRange.Contains r ∧ ¬r.Contains sel.toRange := by
  obtain ⟨-, hview⟩ := h.supported hlang
  obtain ⟨span, hspan, rfl⟩ := hview.mem_decorated_iff.mp hr
  exact Settings.not_contains_of_dispose (of_mem_decorated hspan).2 hsel

/-- **The index and the view agree.** A position shows nothing just in case no range of the view holds
it. -/
theorem hover_eq_none_iff (p : Position) :
    s.hover p = none ↔ ∀ r ∈ s.view.faded ++ s.view.folded, ¬r.Holds p := by
  obtain ⟨hresult, hview⟩ := h.supported hlang
  have hhover : s.hover p = (s.classify e).index.lookup p := by
    unfold hover
    rw [hresult]
    rfl
  rw [hhover, (s.shares_classify e).lookup_index, Option.map_eq_none_iff, List.find?_eq_none]
  refine ⟨fun hnone r hr hholds => ?_, fun hnone span _ hfound => ?_⟩
  · obtain ⟨span, hspan, rfl⟩ := hview.mem_decorated_iff.mp hr
    exact hnone span (of_mem_decorated hspan).1 (decide_eq_true ⟨hspan, hholds⟩)
  · obtain ⟨hspan, hholds⟩ := of_decide_eq_true hfound
    exact hnone span.range (hview.mem_decorated_iff.mpr ⟨span, hspan, rfl⟩) hholds

end Reflects

/-- There is no preview where there is no hover. -/
theorem preview_eq_none {p : Position} (h : s.hover p = none) : s.preview p = none := by
  unfold preview
  rw [h]
  rfl

end Session

/-! ## After a rescan -/

namespace Workspace

/-- **Nothing is hidden at a selection.** Whatever the session was told of, if it has scanned the
active editor then no range that it handed on as faded or folded contains a selection or lies in
one. At a cursor no such range holds the position, and there is neither a text nor a preview.
Conversely a position without a text is one that no such range holds. -/
theorem nothing_hidden_at_selections {w : Workspace} {a : Action} {e : Editor} (h : w.Notifies a)
    (he : (w.step a).1.activeEditor = some e)
    (hlang : (w.step a).1.session.settings.supports e.document.language = true) :
    let after := (w.step a).1.session
    let hidden := after.view.faded ++ after.view.folded
    (∀ sel ∈ e.selections, ∀ r ∈ hidden, ¬sel.toRange.Contains r ∧ ¬r.Contains sel.toRange)
      ∧ (∀ sel ∈ e.selections, sel.start = sel.stop →
        (∀ r ∈ hidden, ¬r.Holds sel.start) ∧ after.hover sel.start = none
          ∧ after.preview sel.start = none)
      ∧ ∀ p, after.hover p = none ↔ ∀ r ∈ hidden, ¬r.Holds p := by
  intro after hidden
  have hreflects : after.Reflects e := h.reflects_step he
  have hselected : ∀ sel ∈ e.selections, ∀ r ∈ hidden,
      ¬sel.toRange.Contains r ∧ ¬r.Contains sel.toRange := fun sel hsel r hr =>
    hreflects.not_contains_of_mem_decorated hlang hr hsel
  refine ⟨hselected, fun sel hsel hempty => ?_, hreflects.hover_eq_none_iff hlang⟩
  have hheld : ∀ r ∈ hidden, ¬r.Holds sel.start := by
    intro r hr hholds
    exact (hselected sel hsel r hr).2 ((Selection.contains_iff_holds hempty r).mpr hholds)
  have hhover : after.hover sel.start = none := (hreflects.hover_eq_none_iff hlang sel.start).mpr hheld
  exact ⟨hheld, hhover, Session.preview_eq_none hhover⟩

/-- The cursor stands where two spans touch, the second of them over two lines; a third one is
folded. -/
theorem nothing_hidden_at_selections_touching :
    let settings : Json.Object :=
      [(Setting.supportedLanguages.key, .arr [.str "html"]), (Setting.autoFold.key, .bool true)]
    let cursor : Selection := .cursor ⟨0, 9⟩
    let e : Editor :=
      { document := ⟨"class='a'class='b\nc'\nclass='d'", "html"⟩, selections := [cursor] }
    let w := (opened { values := settings } [e]).run [.loadSettings]
    let after := (w.step (.activate (some 0))).1.session
    w.Notifies (.activate (some 0)) ∧ (w.step (.activate (some 0))).1.activeEditor = some e ∧
      after.settings.supports e.document.language = true ∧
      after.view.unfolded.map (·.start) = [⟨0, 0⟩, ⟨0, 9⟩] ∧
      after.view.folded.map (·.start) = [⟨2, 0⟩] ∧ after.hover cursor.start = none ∧
      after.preview cursor.start = none ∧ (∀ r ∈ after.view.folded, ¬r.Contains cursor.toRange) := by
  intro settings cursor e w after
  have hnotifies : w.Notifies (.activate (some 0)) := .activate (by decide)
  have hactive : (w.step (.activate (some 0))).1.activeEditor = some e := by rfl
  have hlang : after.settings.supports e.document.language = true := by decide +kernel
  obtain ⟨hselected, hcursor, -⟩ := nothing_hidden_at_selections hnotifies hactive hlang
  obtain ⟨-, hhover, hpreview⟩ := hcursor cursor List.mem_cons_self rfl
  refine ⟨hnotifies, hactive, hlang, by decide +kernel, by decide +kernel, hhover, hpreview, ?_⟩
  intro r hr
  exact (hselected cursor List.mem_cons_self r (List.mem_append_right _ hr)).2

end Workspace

end AttrFold
