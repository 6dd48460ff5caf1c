import AttrFold.Proofs.Span
import Mathlib.Data.List.Forall2

/-!
# The spans of inner parts

When only inner parts are folded, the span of an attribute is put where the text of its inner part
first occurs in the attribute. The inner part itself stands behind the lead.

## The crux

The lead is searched as well, and a short class list may be found there: the `a` of `class='a'` occurs
in the name already. So the span lies on the inner part exactly when no copy of that part begins in the
lead (`Attribute.InnerBeginsInLead`), and otherwise it starts too early. For a class list without quotes
and parentheses only the copies count that the lead holds as a whole (`innerBeginsInLead_iff_infix`),
so a class list that is no piece of its lead is covered.

* **`spans_quotedOnly_foldInner`** — every attribute with an inner part has one span, in their order,
  with its text and form; the span covers the inner part exactly when no copy begins in the lead.
-/

namespace AttrFold

/-! ## Copies of the inner part -/

namespace Attribute

variable {a : Attribute}

/-- Whether the text of the inner part also stands at some offset of the lead. -/
def InnerBeginsInLead (a : Attribute) : Prop := ∃ i < a.lead.length, a.inner <+: a.text.drop i

instance (a : Attribute) : Decidable a.InnerBeginsInLead :=
  inferInstanceAs (Decidable (∃ i < a.lead.length, a.inner <+: a.text.drop i))

/-- The inner part is found in the lead or right behind it, and not in the lead only if no copy begins
there. -/
theorem exists_find?_inner (a : Attribute) : ∃ j ≤ a.lead.length,
    Text.find? a.inner a.text = some j ∧ (j < a.lead.length ↔ a.InnerBeginsInLead) := by
  obtain ⟨j, hj, hfind⟩ :=
    Text.exists_find?_of_prefix_drop a.inner_prefix_drop_lead a.length_lead_le
  obtain ⟨-, hstands, hfirst⟩ := Text.find?_eq_some_iff.mp hfind
  refine ⟨j, hj, hfind, fun hlt => ⟨j, hlt, hstands⟩, fun ⟨i, hi, hcopy⟩ => ?_⟩
  -- the first place is not after that of the copy
  by_contra hnot
  exact hfirst i (by omega) hcopy

/-- An opening ends with a parenthesis or a quote. -/
theorem IsBody.exists_opening_eq_concat {form : Form} {opening inner closer : Text}
    (h : IsBody form opening inner closer) :
    ∃ (front : Text) (c : Char), opening = front ++ [c] ∧ (c = '(' ∨ isQuote c = true) := by
  cases h with
  | call hopen _ =>
    obtain ⟨blanks, callee, -, -⟩ := hopen
    exact ⟨'{' :: blanks ++ callee, '(', rfl, .inl rfl⟩
  | repeated hopen =>
    obtain ⟨hq, front, hfront⟩ := hopen.exists_eq_concat
    exact ⟨front, _, hfront, .inr hq⟩
  | braced hopen _ =>
    obtain ⟨hq, front, hfront⟩ := hopen.exists_eq_concat
    exact ⟨front, _, hfront, .inr hq⟩

/-- The lead ends with the parenthesis of a call or with a quote. -/
theorem WellFormed.exists_lead_eq_concat (h : a.WellFormed) :
    ∃ (front : Text) (c : Char), a.lead = front ++ [c] ∧ (c = '(' ∨ isQuote c = true) := by
  obtain ⟨front, c, hopening, hc⟩ := h.body.exists_opening_eq_concat
  refine ⟨a.head ++ a.separator ++ front, c, ?_, hc⟩
  unfold lead
  rw [hopening, List.append_assoc (a.head ++ a.separator)]

/-- A class list without quotes and parentheses cannot reach over the end of the lead, so a copy of it
that begins in the lead lies in the lead. -/
theorem innerBeginsInLead_iff_infix (h : a.WellFormed)
    (hplain : ∀ c ∈ a.inner, c ≠ '(' ∧ isQuote c = false) (hne : a.inner ≠ []) :
    a.InnerBeginsInLead ↔ a.inner <:+: a.lead := by
  constructor
  · rintro ⟨i, hi, hcopy⟩
    obtain ⟨front, c, hlead, hc⟩ := h.exists_lead_eq_concat
    have hlen : a.lead.length = front.length + 1 := by rw [hlead, List.length_append]; rfl
    have htext : a.text = a.lead ++ (a.inner ++ a.closer) := List.append_assoc _ _ _
    have hend : i + a.inner.length ≤ front.length := by
      by_contra hover
      -- the copy would hold the character at the end of the lead
      have hlast := Text.getElem?_of_prefix_drop (i := front.length - i) hcopy (by omega)
      rw [show i + (front.length - i) = front.length by omega, htext, hlead,
        List.getElem?_append_left (by rw [List.length_append]; exact Nat.lt_succ_self _),
        List.getElem?_concat_length] at hlast
      obtain ⟨hparen, hquote⟩ := hplain c (List.mem_of_getElem? hlast.symm)
      rcases hc with hc | hc
      · exact hparen hc
      · rw [hquote] at hc
        cases hc
    rw [htext, List.drop_append_of_le_length (by omega)] at hcopy
    have hlead : a.inner <+: a.lead.drop i :=
      List.prefix_of_prefix_length_le hcopy (List.prefix_append _ _)
        (by rw [List.length_drop]; omega)
    exact hlead.isInfix.trans (List.drop_suffix i a.lead).isInfix
  · rintro ⟨s, r, hlead⟩
    have hpos := List.length_pos_iff.mpr hne
    refine ⟨s.length, ?_, ?_⟩
    · rw [← hlead]
      simp only [List.length_append]
      omega
    · unfold text
      rw [← hlead, List.append_assoc, List.append_assoc, List.append_assoc, List.drop_left]
      exact List.prefix_append _ _

end Attribute

/-! ## The span of one attribute -/

namespace Occurrence

/-- The offset at which the inner part of an attribute stands in its document. -/
def innerAt (m : Occurrence) : Nat := m.offset + m.found.lead.length

/-- The range of the inner part of an attribute. -/
def innerRange (m : Occurrence) (d : Document) : Range := d.rangeAt m.innerAt m.found.inner.length

end Occurrence

namespace Span

/-- What a span that folds the inner part of an attribute has to do with that part. It starts in the
attribute and ends by the end of the inner part, and it is that part's range unless a copy of the part
begins in the lead. A class list without quotes and parentheses has such a copy only if it is a piece of
the lead. -/
structure FoldsInner (s : Span) (d : Document) (m : Occurrence) : Prop where
  text : s.text = m.found.inner
  form : s.form = m.found.form
  start : d.positionAt m.offset ≤ s.range.start
  stop : s.range.stop ≤ (m.innerRange d).stop
  covers_iff : s.range = m.innerRange d ↔ ¬m.found.InnerBeginsInLead
  covers_plain_iff : (∀ c ∈ m.found.inner, c ≠ '(' ∧ isQuote c = false) →
    (s.range = m.innerRange d ↔ ¬m.found.inner <:+: m.found.lead)
  early : m.found.InnerBeginsInLead → s.range.start < (m.innerRange d).start

variable {d : Document} {m : Occurrence} {s : Span}

/-- The inner part of an attribute stands in the document, behind the attribute's lead. -/
theorem innerAt_le (hm : m ∈ Occurrence.all d.text) : m.innerAt ≤ d.text.length := by
  obtain ⟨hwf, hstands⟩ := Occurrence.wellFormed_of_mem_all hm
  have hne : m.found.text ≠ [] := by
    intro hnil
    have hfirst := Attribute.getElem?_zero_of_wellFormed hwf
    rw [hnil] at hfirst
    cases hfirst
  have hlen := Text.add_length_le_of_prefix_drop hstands hne
  unfold Attribute.text at hlen
  simp only [List.length_append] at hlen
  unfold Occurrence.innerAt
  omega

/-- A span in the mode for quoted text folds the inner part of its occurrence, at its first copy. -/
theorem foldsInner_of_ofOccurrence? (hm : m ∈ Occurrence.all d.text)
    (hs : ofOccurrence? d .quotedOnly m = some s) : s.FoldsInner d m := by
  obtain ⟨hwf, -⟩ := Occurrence.wellFormed_of_mem_all hm
  obtain ⟨target, k, ht, hk, rfl⟩ := (ofOccurrence?_eq_some_iff hm).mp hs
  obtain ⟨hne, -⟩ := Attribute.exists_find?_of_target? hwf ht
  obtain rfl : m.found.inner = target := by
    simp only [Attribute.target?] at ht
    split at ht
    · cases ht
    · exact Option.some.inj ht
  obtain ⟨j, hj, hfind, hlead⟩ := m.found.exists_find?_inner
  obtain rfl : j = k := Option.some.inj (hfind.symm.trans hk)
  have hinner : m.innerAt = m.offset + m.found.lead.length := rfl
  have hbefore : j < m.found.lead.length →
      d.positionAt (m.offset + j : Nat) < d.positionAt m.innerAt := fun hlt =>
    Document.positionAt_lt (by omega) (innerAt_le hm)
  -- the place that is found is that of the inner part, or lies before it
  have hcovers : d.rangeAt (m.offset + j) m.found.inner.length = m.innerRange d
      ↔ ¬m.found.InnerBeginsInLead := by
    rw [← hlead]
    constructor
    · intro hrange hlt
      have hstart : d.positionAt (m.offset + j : Nat) = d.positionAt m.innerAt :=
        congrArg Range.start hrange
      have hless := hbefore hlt
      rw [hstart, Position.lt_def] at hless
      omega
    · intro hnot
      obtain rfl : j = m.found.lead.length := by omega
      rfl
  exact {
    text := rfl
    form := rfl
    start := d.positionAt_le (by omega)
    stop := d.positionAt_le (by omega)
    covers_iff := hcovers
    covers_plain_iff := fun hplain => by
      rw [← Attribute.innerBeginsInLead_iff_infix hwf hplain hne]
      exact hcovers
    early := fun hcopy => hbefore (hlead.mpr hcopy) }

end Span

/-! ## The spans of a document -/

/-- A list and what is left of it by a partial map, side by side. -/
theorem forall₂_filter_filterMap {α β : Type} {R : α → β → Prop} {p : α → Bool} {f : α → Option β}
    {l : List α} (h : ∀ x ∈ l, if p x then ∃ y, f x = some y ∧ R x y else f x = none) :
    List.Forall₂ R (l.filter p) (l.filterMap f) := by
  induction l with
  | nil => exact .nil
  | cons x l ih =>
    obtain ⟨hx, hl⟩ := List.forall_mem_cons.mp h
    by_cases hp : p x = true
    · rw [if_pos hp] at hx
      obtain ⟨y, hy, hR⟩ := hx
      rw [List.filter_cons_of_pos hp, List.filterMap_cons_some hy]
      exact .cons hR (ih hl)
    · rw [if_neg hp] at hx
      rw [List.filter_cons_of_neg hp, List.filterMap_cons_none hx]
      exact ih hl

/-- **The span of an inner part covers it exactly when no copy of it begins in the lead.** Every
attribute with an inner part has its span, and an attribute without one has none. -/
theorem Document.spans_quotedOnly_foldInner (d : Document) :
    List.Forall₂ (fun m s => s.FoldsInner d m)
      ((Occurrence.all d.text).filter fun m => !m.found.inner.isEmpty) (d.spans .quotedOnly) := by
  refine forall₂_filter_filterMap fun m hm => ?_
  by_cases hempty : m.found.inner.isEmpty = true
  · simp [hempty, Span.ofOccurrence?, Attribute.target?]
  · have htarget : m.found.target? .quotedOnly = some m.found.inner := if_neg hempty
    obtain ⟨hwf, -⟩ := Occurrence.wellFormed_of_mem_all hm
    obtain ⟨-, k, hk⟩ := Attribute.exists_find?_of_target? hwf htarget
    have hspan := (Span.ofOccurrence?_eq_some_iff hm).mpr ⟨_, k, htarget, hk, rfl⟩
    simp only [Bool.not_eq_true] at hempty
    rw [hempty, Bool.not_false, if_pos rfl]
    exact ⟨_, hspan, Span.foldsInner_of_ofOccurrence? hm hspan⟩

/-- The class list `a` is found in the name `class`, and no span covers it. -/
theorem Document.spans_quotedOnly_in_name :
    let d : Document := ⟨"class='a'", "html"⟩
    let m : Occurrence := ⟨0, ⟨"class", ['='], ['\''], ['a'], ['\''], .quotedContent⟩⟩
    m ∈ Occurrence.all d.text ∧ m.found.inner ≠ [] ∧ m.innerRange d = d.rangeAt 7 1 ∧
      d.spans .quotedOnly = [⟨d.rangeAt 2 1, ['a'], .quotedContent⟩] ∧
        ∀ s ∈ d.spans .quotedOnly, s.range ≠ m.innerRange d := by
  decide +kernel

end AttrFold
