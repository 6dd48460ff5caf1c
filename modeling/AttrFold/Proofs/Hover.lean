import Mathlib.Data.List.Find
import AttrFold.Proofs.Session
import AttrFold.Proofs.SpanIndex

/-!
# The text at a position

The index agrees with the order of positions (`SpanKey.covers_ofRange`). Positions keep the order of
offsets, so a span holds the position of an offset just in case the offset lies in the extent over which
the span was found (`holds_positionAt_iff`). Both ends count: of two spans that touch the earlier one is
shown.

* **`hover_after_update`** — right after a rescan a position shows the first faded or folded span
  that holds it, and the position of an offset shows the stretch of the document over which the
  first such span was found.
-/

namespace AttrFold

/-! ## The index of a classification -/

/-- Looking up a position among spans finds the first one that holds it. -/
theorem SpanIndex.lookup_map_entry (spans : List Span) (p : Position) :
    SpanIndex.lookup (spans.map Span.entry) p
      = (spans.find? fun s => s.range.Holds p).map Span.text := by
  have hcovers : (fun e : SpanKey × Text => e.1.covers p) ∘ Span.entry
      = fun s : Span => decide (s.range.Holds p) :=
    funext fun s => SpanKey.covers_ofRange s.range p
  unfold lookup
  rw [List.find?_map, hcovers, Option.map_map]
  rfl

/-- Where spans are shared out, a position shows the first faded or folded one that holds it. -/
theorem Classification.Shares.lookup_index {c : Classification} {spans : List Span}
    (h : c.Shares spans) (p : Position) :
    c.index.lookup p = (spans.find? fun s =>
      (s ∈ c.faded ∨ s ∈ c.folded) ∧ s.range.Holds p).map Span.text := by
  rw [h.index, SpanIndex.lookup_map_entry, List.find?_filter]
  simp only [decide_eq_true_eq]

/-! ## Extents of spans -/

/-- A span with the offsets from which and up to which it was found. -/
structure Extent where
  span : Span
  start : Nat
  stop : Nat

namespace Document

variable {d : Document} {mode : Mode}

/-- The extents of the spans of a document, in their order. -/
def extents (d : Document) (mode : Mode) : List Extent :=
  (Occurrence.all d.text).filterMap fun m => (Span.ofOccurrence? d mode m).map fun s =>
    ⟨s, s.foundAt m, s.foundAt m + s.text.length⟩

/-- The spans of extents are the spans of the document. -/
theorem map_span_extents (d : Document) (mode : Mode) :
    (d.extents mode).map Extent.span = d.spans mode := by
  unfold extents spans
  rw [List.map_filterMap]
  simp only [Option.map_map, Function.comp_def, Option.map_id']

/-- An extent covers the text of its span. -/
theorem standsAt_of_mem_extents {x : Extent} (hx : x ∈ d.extents mode) :
    x.span.StandsAt d x.start ∧ x.stop = x.start + x.span.text.length := by
  obtain ⟨m, hm, hfound⟩ := List.mem_filterMap.mp hx
  obtain ⟨s, hs, rfl⟩ := Option.map_eq_some_iff.mp hfound
  exact ⟨(Span.standsAt_of_ofOccurrence? hm hs).1, rfl⟩

end Document

/-- A span holds the position of an offset just in case the offset lies in its extent. -/
theorem Span.StandsAt.holds_positionAt_iff {s : Span} {d : Document} {start o : Nat}
    (h : s.StandsAt d start) (ho : o ≤ d.text.length) :
    s.range.Holds (d.positionAt o) ↔ start ≤ o ∧ o ≤ start + s.text.length := by
  have hstop := h.stop_le
  rw [h.range]
  show d.positionAt start ≤ d.positionAt o ∧ d.positionAt o ≤ d.positionAt (start + _ : Nat) ↔ _
  rw [Document.positionAt_le_iff (by omega), Document.positionAt_le_iff ho]

namespace Document

variable {d : Document} {mode : Mode}

/-- The first span of some kind at the position of an offset is found by offsets as well, and its text
is read off the document. -/
theorem find?_spans_positionAt (d : Document) (mode : Mode) (P : Span → Prop) [DecidablePred P]
    {o : Nat} (ho : o ≤ d.text.length) :
    ((d.spans mode).find? fun s => P s ∧ s.range.Holds (d.positionAt o)).map Span.text
      = ((d.extents mode).find? fun x => P x.span ∧ x.start ≤ o ∧ o ≤ x.stop).map
          fun x => d.text.slice x.start x.stop := by
  -- on the extents of the document, and only there, both searches ask the same
  have hholds : ∀ x ∈ d.extents mode, decide (P x.span ∧ x.span.range.Holds (d.positionAt o))
      = decide (P x.span ∧ x.start ≤ o ∧ o ≤ x.stop) := by
    intro x hx
    obtain ⟨hstands, hstop⟩ := standsAt_of_mem_extents hx
    rw [decide_eq_decide, hstands.holds_positionAt_iff ho, hstop]
  rw [← map_span_extents, List.find?_map, Option.map_map]
  show ((d.extents mode).find? fun x => P x.span ∧ x.span.range.Holds (d.positionAt o)).map _ = _
  rw [List.find?_congr hholds]
  refine Option.map_congr fun x hx => ?_
  obtain ⟨hstands, hstop⟩ := standsAt_of_mem_extents (List.mem_of_find?_eq_some hx)
  rw [hstop]
  exact (Text.slice_of_prefix_drop hstands.text).symm

end Document

namespace Session

/-- **A position shows the text of the first faded or folded span at it.** -/
theorem hover_after_update {s : Session} {e : Editor}
    (hlang : s.settings.supports e.document.language = true) :
    let d := e.document
    let mode := s.settings.foldStyle.mode
    let after := (s.update (some e)).1
    (d.extents mode).map Extent.span = d.spans mode ∧
      ∃ c, after.result = some c ∧
        (∀ o ≤ d.text.length, after.hover (d.positionAt o)
          = ((d.extents mode).find? fun x => (x.span ∈ c.faded ∨ x.span ∈ c.folded) ∧
              x.start ≤ o ∧ o ≤ x.stop).map fun x => d.text.slice x.start x.stop) ∧
        ∀ p, after.hover p = ((d.spans mode).find? fun t =>
          (t ∈ c.faded ∨ t ∈ c.folded) ∧ t.range.Holds p).map Span.text := by
  intro d mode after
  have hafter : after = s.scanned (s.classify e) := update_supported hlang
  have hhover : ∀ p, after.hover p = ((d.spans mode).find? fun t =>
      (t ∈ (s.classify e).faded ∨ t ∈ (s.classify e).folded) ∧ t.range.Holds p).map Span.text := by
    intro p
    rw [hafter]
    exact (s.shares_classify e).lookup_index p
  refine ⟨d.map_span_extents mode, s.classify e, ?_, fun o ho => ?_, hhover⟩
  · rw [hafter]
    rfl
  · rw [hhover]
    exact d.find?_spans_positionAt mode _ ho

/-- Two spans that touch, the second one over two lines and too long to be folded. -/
theorem hover_after_update_touching :
    let settings : Settings :=
      { autoFold := true, supportedLanguages := ["html"], foldMaxLength := 9 }
    let s : Session := { settings }
    let e : Editor := { document := ⟨"class='a'class='b\r\nc'", "html"⟩ }
    let after := (s.update (some e)).1
    s.settings.supports e.document.language = true ∧
      after.hover (e.document.positionAt (9 : Nat)) = some "class='a'" ∧
      after.hover (e.document.positionAt (10 : Nat)) = some "class='b\r\nc'" ∧
      after.hover ⟨7, 0⟩ = none := by
  intro settings s e after
  have hlang : s.settings.supports e.document.language = true := by decide
  obtain ⟨-, c, hc, hoffsets, hpositions⟩ := hover_after_update hlang
  have hresult : after.result = some (s.classify e) := by decide +kernel
  obtain rfl : s.classify e = c := Option.some.inj (hresult.symm.trans hc)
  refine ⟨hlang, ?_, ?_, ?_⟩
  · rw [hoffsets 9 (by decide)]
    decide +kernel
  · rw [hoffsets 10 (by decide)]
    decide +kernel
  · rw [hpositions]
    decide +kernel

end Session

end AttrFold
