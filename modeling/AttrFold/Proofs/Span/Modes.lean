import AttrFold.Proofs.Span.Inner

/-!
# The spans of both modes

A document has one span for each of its attributes when attributes are folded as a whole, and one
for each attribute with an inner part when only inner parts are folded. The second spans lie in the
first ones.

## The crux

That a span of an inner part lies in the span of its own attribute is a matter of offsets, and
positions keep their order. That it lies in no other one needs more: attributes may touch, so their
ranges share a position, but a span is not empty and its ends have different positions
(`eq_of_contains`).

* **`spans_quotedOnly_refine_all`** — the spans of inner parts, side by side with the spans of those
  attributes that have one.
-/

namespace AttrFold

namespace Span

variable {d : Document} {mode : Mode} {m n : Occurrence} {s : Span}

/-- The span that folds an attribute as a whole. -/
def whole (d : Document) (m : Occurrence) : Span :=
  ⟨d.rangeAt m.offset m.found.text.length, m.found.text, m.found.form⟩

/-- In the mode for all, an occurrence makes the span of its whole text. -/
theorem ofOccurrence?_all (hm : m ∈ Occurrence.all d.text) :
    ofOccurrence? d .all m = some (whole d m) := by
  have htarget : m.found.target? .all = some m.found.text := rfl
  obtain ⟨hwf, -⟩ := Occurrence.wellFormed_of_mem_all hm
  obtain ⟨-, k, hk⟩ := Attribute.exists_find?_of_target? hwf htarget
  obtain ⟨-, -, hfirst⟩ := Text.find?_eq_some_iff.mp hk
  -- the whole attribute is found at its very beginning
  have hzero : k = 0 := by
    by_contra hne
    exact hfirst 0 (by omega) List.prefix_rfl
  subst hzero
  exact (ofOccurrence?_eq_some_iff hm).mpr ⟨_, 0, htarget, hk, rfl⟩

/-- In the mode for quoted text, nothing is made of an empty inner part. -/
theorem ofOccurrence?_quotedOnly_of_nil (h : m.found.inner = []) :
    ofOccurrence? d .quotedOnly m = none := by
  simp [ofOccurrence?, Attribute.target?, h]

/-- In the mode for quoted text, an inner part that is not empty makes a span. -/
theorem exists_ofOccurrence?_quotedOnly (hm : m ∈ Occurrence.all d.text) (h : m.found.inner ≠ []) :
    ∃ s, ofOccurrence? d .quotedOnly m = some s ∧ s.FoldsInner d m := by
  have htarget : m.found.target? .quotedOnly = some m.found.inner := if_neg (by simpa using h)
  obtain ⟨hwf, -⟩ := Occurrence.wellFormed_of_mem_all hm
  obtain ⟨-, k, hk⟩ := Attribute.exists_find?_of_target? hwf htarget
  have hspan := (ofOccurrence?_eq_some_iff hm).mpr ⟨_, k, htarget, hk, rfl⟩
  exact ⟨_, hspan, foldsInner_of_ofOccurrence? hm hspan⟩

/-- A span of an inner part as a finer one of a whole attribute: its text is the inner part and
stands in the attribute, its form is the same, and its range lies in that of the attribute. -/
structure Refines (fine coarse : Span) (inner : Text) : Prop where
  text : fine.text = inner
  part : fine.text <:+: coarse.text
  form : fine.form = coarse.form
  range : coarse.range.Contains fine.range

/-- The span of an inner part lies within that of the whole. -/
theorem FoldsInner.refines (h : s.FoldsInner d m) : s.Refines (whole d m) m.found.inner := by
  have htext : m.found.text = m.found.lead ++ m.found.inner ++ m.found.closer := rfl
  refine ⟨h.text, ?_, h.form, h.start, ?_⟩
  · rw [h.text]
    exact ⟨m.found.lead, m.found.closer, rfl⟩
  · -- the inner part ends before the closer does
    refine Position.le_trans h.stop ?_
    show d.positionAt (m.innerAt + m.found.inner.length : Nat)
      ≤ d.positionAt (m.offset + m.found.text.length : Nat)
    refine d.positionAt_le ?_
    unfold Occurrence.innerAt
    rw [htext, List.length_append, List.length_append]
    omega

/-- A span lies in the range of no attribute but its own. -/
theorem eq_of_contains (hm : m ∈ Occurrence.all d.text) (hn : n ∈ Occurrence.all d.text)
    (hs : ofOccurrence? d mode n = some s) (h : (whole d m).range.Contains s.range) : m = n := by
  by_contra hne
  obtain ⟨hstands, hstart, hstop, -⟩ := standsAt_of_ofOccurrence? hn hs
  have hlt := hstands.start_lt_stop
  obtain ⟨hbegin, hend⟩ := h
  rw [hstands.range] at hlt hbegin hend
  rcases or_of_pairwise (Occurrence.pairwise_all d.text) hm hn hne with hle | hle
  · -- the attribute ends before the span starts
    have hafter : (whole d m).range.stop ≤ d.positionAt (s.foundAt n : Nat) :=
      d.positionAt_le (by unfold Occurrence.stop at hle; omega)
    have hback := Position.le_trans hend hafter
    exact Position.not_le.mpr hlt hback
  · -- the span stops before the attribute begins
    have hbefore : d.positionAt (s.foundAt n + s.text.length : Nat) ≤ (whole d m).range.start :=
      d.positionAt_le (by omega)
    have hback := Position.le_trans hbefore hbegin
    exact Position.not_le.mpr hlt hback

end Span

namespace Document

theorem spans_all (d : Document) : d.spans .all = (Occurrence.all d.text).map (Span.whole d) := by
  unfold spans
  rw [← List.filterMap_eq_map]
  exact List.filterMap_congr fun m hm => Span.ofOccurrence?_all hm

/-- **Folding inner parts refines folding whole attributes.** The spans of inner parts are those of
the attributes that have one, in their order: each lies in the span of its attribute and in no other
one. The attributes that are left out are exactly those with an empty inner part. -/
theorem spans_quotedOnly_refine_all (d : Document) :
    d.spans .all = (Occurrence.all d.text).map (Span.whole d) ∧
      List.Forall₂ (fun m s => s.Refines (Span.whole d m) m.found.inner ∧
          ∀ u ∈ d.spans .all, u.range.Contains s.range → u = Span.whole d m)
        ((Occurrence.all d.text).filter fun m => !m.found.inner.isEmpty) (d.spans .quotedOnly) ∧
      ∀ m ∈ Occurrence.all d.text, m.found.inner = [] ↔
        ∀ s ∈ d.spans .quotedOnly, ¬(Span.whole d m).range.Contains s.range := by
  refine ⟨spans_all d, forall₂_filter_filterMap fun m hm => ?_,
    fun m hm => ⟨fun hnil s hs h => ?_, fun h => ?_⟩⟩
  · by_cases hnil : m.found.inner = []
    · simpa [hnil] using Span.ofOccurrence?_quotedOnly_of_nil hnil
    · obtain ⟨s, hs, hfolds⟩ := Span.exists_ofOccurrence?_quotedOnly hm hnil
      rw [if_pos (by simpa using hnil)]
      refine ⟨s, hs, hfolds.refines, fun u hu hcontains => ?_⟩
      rw [spans_all] at hu
      obtain ⟨n, hn, rfl⟩ := List.mem_map.mp hu
      rw [Span.eq_of_contains hn hm hs hcontains]
  · -- the span would have to be that of this attribute, which has none
    obtain ⟨n, hn, hspan⟩ := mem_spans_iff.mp hs
    obtain rfl := Span.eq_of_contains hm hn hspan h
    rw [Span.ofOccurrence?_quotedOnly_of_nil hnil] at hspan
    cases hspan
  · by_contra hne
    obtain ⟨s, hs, hfolds⟩ := Span.exists_ofOccurrence?_quotedOnly hm hne
    exact h s (mem_spans_iff.mpr ⟨m, hm, hs⟩) hfolds.refines.range

end Document

end AttrFold
