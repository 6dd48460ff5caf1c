import AttrFold.Classification
import AttrFold.Proofs.Document.Inverse
import AttrFold.Proofs.Occurrence
import Mathlib.Data.List.Pairwise

/-!
# The spans of a document

Each span stands at an offset of its document (`Span.StandsAt`): its text is there, and its range goes
from the position of the offset to that just after the text. Spans stand within the occurrences that
they come from, so they are apart from one another and in order.

* **`spans_faithful`** — every target gets a span, spans are not empty, ordered and told apart by their
  keys, and the stretch of the document between the ends of a span is its text.
-/

namespace AttrFold

/-! ## The ends of an attribute

An attribute begins with a letter and ends with a quote or a brace. None of these ends a line, which is
why both ends of a whole attribute come back from their positions even behind carriage returns. -/

namespace Attribute

/-- Both names of an attribute begin with one letter. -/
theorem getElem?_zero_of_wellFormed {a : Attribute} (h : a.WellFormed) : a.text[0]? = some 'c' := by
  have hhead := h.head
  unfold text lead
  generalize a.head = head at hhead ⊢
  cases hhead <;> rfl

/-- Whether a text ends with a quote or a brace. -/
def EndsClosed (t : Text) : Prop :=
  ∃ (front : Text) (c : Char), t = front ++ [c] ∧ (isQuote c = true ∨ c = '}')

/-- What stands before a text does not change how it ends. -/
theorem EndsClosed.append {t : Text} (h : EndsClosed t) (before : Text) : EndsClosed (before ++ t) := by
  obtain ⟨front, c, rfl, hc⟩ := h
  exact ⟨before ++ front, c, (List.append_assoc before front [c]).symm, hc⟩

theorem IsBraceCloser.endsClosed {c : Char} {t : Text} (h : IsBraceCloser c t) : EndsClosed t := by
  obtain ⟨blanks, -⟩ := h
  exact ⟨c :: blanks, '}', rfl, .inr rfl⟩

/-- An opening of a quoted text ends with its quote. -/
theorem IsQuotedOpening.exists_eq_concat {quote : Char} {opening : Text}
    (h : IsQuotedOpening quote opening) :
      isQuote quote = true ∧ ∃ front, opening = front ++ [quote] := by
  cases h with
  | plain blanks hq _ => exact ⟨hq, blanks, rfl⟩
  | braced blanks hq _ => exact ⟨hq, '{' :: blanks, rfl⟩

theorem IsQuotedOpening.endsClosed {quote : Char} {t : Text} (h : IsQuotedOpening quote t) :
    EndsClosed t := by
  obtain ⟨hq, front, rfl⟩ := h.exists_eq_concat
  exact ⟨front, quote, rfl, .inl hq⟩

theorem IsBody.endsClosed {form : Form} {opening inner closer : Text}
    (h : IsBody form opening inner closer) : EndsClosed closer := by
  cases h with
  | call _ hclose => exact hclose.endsClosed
  | repeated hopen => exact hopen.endsClosed
  | braced _ hclose => exact hclose.endsClosed

/-- An attribute ends with a quote or a brace. -/
theorem WellFormed.endsClosed {a : Attribute} (h : a.WellFormed) : EndsClosed a.text :=
  h.body.endsClosed.append (a.lead ++ a.inner)

/-- What closes an attribute is no end of a line. -/
theorem ne_lineEnd_of_last {c : Char} (h : isQuote c = true ∨ c = '}') : c ≠ '\n' ∧ c ≠ '\r' := by
  rcases h with h | rfl
  · simp only [isQuote, Bool.or_eq_true, decide_eq_true_eq] at h
    rcases h with (rfl | rfl) | rfl <;> decide
  · decide

/-! ## What is folded of an attribute -/

/-- The inner part of an attribute stands behind its lead. -/
theorem inner_prefix_drop_lead (a : Attribute) : a.inner <+: a.text.drop a.lead.length := by
  unfold text
  rw [List.append_assoc, List.drop_left]
  exact List.prefix_append _ _

theorem length_lead_le (a : Attribute) : a.lead.length ≤ a.text.length := by
  unfold text
  simp only [List.length_append]
  omega

/-- A target is a part of the attribute, and so it is found in it. -/
theorem exists_find?_of_target? {a : Attribute} {mode : Mode} {target : Text} (h : a.WellFormed)
    (ht : a.target? mode = some target) : target ≠ [] ∧ ∃ k, Text.find? target a.text = some k := by
  cases mode with
  | all =>
    obtain rfl : a.text = target := Option.some.inj ht
    have hfirst := getElem?_zero_of_wellFormed h
    refine ⟨fun hnil => ?_, ?_⟩
    · rw [hnil] at hfirst
      cases hfirst
    · obtain ⟨k, -, hk⟩ := Text.exists_find?_of_prefix_drop (o := 0) (t := a.text) List.prefix_rfl
        (Nat.zero_le _)
      exact ⟨k, hk⟩
  | quotedOnly =>
    simp only [target?] at ht
    split at ht
    · cases ht
    · next hne =>
      obtain rfl : a.inner = target := Option.some.inj ht
      refine ⟨fun hnil => hne (List.isEmpty_iff.mpr hnil), ?_⟩
      obtain ⟨k, -, hk⟩ :=
        Text.exists_find?_of_prefix_drop a.inner_prefix_drop_lead a.length_lead_le
      exact ⟨k, hk⟩

end Attribute

/-- The range of a part of a document can be built: its ends are in order. -/
theorem Range.between?_positionAt (d : Document) (start length : Nat) :
    Range.between? (d.positionAt start) (d.positionAt (start + length : Nat))
      = some (d.rangeAt start length) :=
  dif_pos (d.positionAt_le (by omega))

namespace Span

/-- A span stands at an offset when its text does and its range is that of the text. -/
structure StandsAt (s : Span) (d : Document) (start : Nat) : Prop where
  range : s.range = d.rangeAt start s.text.length
  text : s.text <+: d.text.drop start
  nonempty : s.text ≠ []

/-! ## The span of an occurrence -/

variable {d : Document} {mode : Mode} {m : Occurrence} {s : Span} {start : Nat}

/-- An occurrence makes a span at the first place where its target stands in it. -/
theorem ofOccurrence?_eq_some_iff (hm : m ∈ Occurrence.all d.text) :
    ofOccurrence? d mode m = some s ↔ ∃ target k, m.found.target? mode = some target ∧
      Text.find? target m.found.text = some k ∧
        s = ⟨d.rangeAt (m.offset + k) target.length, target, m.found.form⟩ := by
  obtain ⟨hwf, -⟩ := Occurrence.wellFormed_of_mem_all hm
  unfold ofOccurrence?
  rw [Option.map_eq_some_iff]
  refine ⟨fun h => ?_, fun h => ?_⟩
  · obtain ⟨target, ht, rfl⟩ := h
    obtain ⟨-, k, hk⟩ := Attribute.exists_find?_of_target? hwf ht
    exact ⟨target, k, ht, hk, by rw [hk, Option.getD_some]⟩
  · obtain ⟨target, k, ht, hk, rfl⟩ := h
    exact ⟨target, ht, by rw [hk, Option.getD_some]⟩

/-- The offset at which a span is found: that of the first place of its text in the occurrence that it
comes from. -/
def foundAt (s : Span) (m : Occurrence) : Nat := m.offset + (Text.find? s.text m.found.text).getD 0

/-- A span stands within the occurrence that it comes from, at the offset where it is found. -/
theorem standsAt_of_ofOccurrence? (hm : m ∈ Occurrence.all d.text)
    (hs : ofOccurrence? d mode m = some s) : s.StandsAt d (s.foundAt m) ∧ m.offset ≤ s.foundAt m ∧
      s.foundAt m + s.text.length ≤ m.stop ∧
        (mode = .all → s.foundAt m = m.offset ∧ s.text = m.found.text) := by
  obtain ⟨hwf, hstands⟩ := Occurrence.wellFormed_of_mem_all hm
  obtain ⟨target, k, ht, hk, rfl⟩ := (ofOccurrence?_eq_some_iff hm).mp hs
  obtain ⟨hne, -⟩ := Attribute.exists_find?_of_target? hwf ht
  obtain ⟨-, hpre, hfirst⟩ := Text.find?_eq_some_iff.mp hk
  have hlen := Text.add_length_le_of_prefix_drop hpre hne
  have hat : foundAt ⟨d.rangeAt (m.offset + k) target.length, target, m.found.form⟩ m
      = m.offset + k := by
    unfold foundAt
    rw [hk, Option.getD_some]
  rw [hat]
  refine ⟨⟨rfl, ?_, hne⟩, Nat.le_add_right _ _, ?_, fun hall => ?_⟩
  · rw [← List.drop_drop]
    obtain ⟨r, hr⟩ := hstands
    rw [← hr, List.drop_append_of_le_length (by omega)]
    exact hpre.trans (List.prefix_append _ r)
  · show m.offset + k + target.length ≤ m.offset + m.found.text.length
    omega
  · subst hall
    obtain rfl : m.found.text = target := Option.some.inj ht
    -- the whole attribute is found at its very beginning
    cases k with
    | zero => exact ⟨rfl, rfl⟩
    | succ k => exact absurd List.prefix_rfl (hfirst 0 (Nat.succ_pos k))

theorem StandsAt.stop_le (h : s.StandsAt d start) : start + s.text.length ≤ d.text.length :=
  Text.add_length_le_of_prefix_drop h.text h.nonempty

/-- A span is not empty. -/
theorem StandsAt.start_lt_stop (h : s.StandsAt d start) : s.range.start < s.range.stop := by
  have hpos := List.length_pos_iff.mpr h.nonempty
  rw [h.range]
  exact Document.positionAt_lt (by omega) h.stop_le

/-- Of a span that is a whole attribute, or in a document without carriage returns, both ends come
back from their positions. -/
theorem StandsAt.offsetAt_ends (h : s.StandsAt d start)
    (hends : '\r' ∉ d.text ∨ ∃ a : Attribute, a.WellFormed ∧ s.text = a.text) :
    d.offsetAt s.range.start = start ∧ d.offsetAt s.range.stop = start + s.text.length := by
  have hpos := List.length_pos_iff.mpr h.nonempty
  have hstop := h.stop_le
  rw [h.range]
  rcases hends with hcr | ⟨a, hwf, htext⟩
  · exact ⟨d.offsetAt_positionAt_of_not_mem hcr (by omega),
      d.offsetAt_positionAt_of_not_mem hcr hstop⟩
  · -- an attribute starts with a letter and ends with a quote or a brace
    obtain ⟨front, c, hlast, hc⟩ := hwf.endsClosed
    have hfirst := Text.getElem?_of_prefix_drop h.text hpos
    rw [htext, Attribute.getElem?_zero_of_wellFormed hwf] at hfirst
    have hfinal := Text.getElem?_of_prefix_drop (i := front.length) h.text (by simp [htext, hlast])
    rw [htext, hlast, List.getElem?_concat_length] at hfinal
    refine ⟨d.offsetAt_positionAt_of_getElem hfirst (by decide), ?_⟩
    have hlen : start + s.text.length = start + front.length + 1 := by
      simp [htext, hlast, Nat.add_assoc]
    show d.offsetAt (d.positionAt (start + s.text.length : Nat)) = start + s.text.length
    rw [hlen]
    exact d.offsetAt_positionAt_succ_of_getElem hfinal (Attribute.ne_lineEnd_of_last hc).2

end Span

/-! ## The spans of a document

Occurrences are apart, and each span stands within its own. From that everything about the order of
spans follows, first in offsets (`pairwise_spans`) and then in positions. -/

/-- In an ordered list one of two members comes first. -/
theorem or_of_pairwise {α : Type} {R : α → α → Prop} {l : List α} (h : l.Pairwise R) {a b : α}
    (ha : a ∈ l) (hb : b ∈ l) (hne : a ≠ b) : R a b ∨ R b a := by
  have hsymm : Std.Symm fun a b => R a b ∨ R b a := ⟨fun _ _ => Or.symm⟩
  have hpair : l.Pairwise fun a b => R a b ∨ R b a := h.imp Or.inl
  exact hpair.forall ha hb hne

namespace Document

variable {d : Document} {mode : Mode} {s : Span}

/-- The spans of a document are those that its occurrences make. -/
theorem mem_spans_iff :
    s ∈ d.spans mode ↔ ∃ m ∈ Occurrence.all d.text, Span.ofOccurrence? d mode m = some s := by
  unfold spans
  rw [List.mem_filterMap]

/-- A span stands somewhere, and when whole attributes are folded it is one. -/
theorem exists_standsAt_of_mem_spans (hs : s ∈ d.spans mode) : ∃ start, s.StandsAt d start ∧
    (mode = .all → ∃ a : Attribute, a.WellFormed ∧ s.text = a.text) := by
  obtain ⟨m, hm, hspan⟩ := mem_spans_iff.mp hs
  obtain ⟨hstands, -, -, hall⟩ := Span.standsAt_of_ofOccurrence? hm hspan
  exact ⟨_, hstands, fun h => ⟨m.found, (Occurrence.wellFormed_of_mem_all hm).1, (hall h).2⟩⟩

/-- Every span ends before the later ones start. -/
theorem pairwise_spans (d : Document) (mode : Mode) : (d.spans mode).Pairwise fun s u =>
    ∃ a b, s.StandsAt d a ∧ u.StandsAt d b ∧ a + s.text.length ≤ b := by
  unfold spans
  refine List.pairwise_filterMap.mpr ?_
  refine (Occurrence.pairwise_all d.text).imp_of_mem fun hm hn hle s hs u hu => ?_
  obtain ⟨hsa, -, hstop, -⟩ := Span.standsAt_of_ofOccurrence? hm hs
  obtain ⟨hub, hstart, -, -⟩ := Span.standsAt_of_ofOccurrence? hn hu
  exact ⟨_, _, hsa, hub, by omega⟩

/-- Spans do not overlap and are in order. -/
theorem pairwise_spans_le (d : Document) (mode : Mode) :
    (d.spans mode).Pairwise fun s u => s.range.stop ≤ u.range.start := by
  refine (pairwise_spans d mode).imp fun ⟨a, b, hs, hu, hle⟩ => ?_
  rw [hs.range, hu.range]
  exact d.positionAt_le (by omega)

/-- No two spans have the same key. -/
theorem nodup_keys_spans (d : Document) (mode : Mode) :
    ((d.spans mode).map fun s => SpanKey.ofRange s.range).Nodup := by
  refine List.pairwise_map.mpr ?_
  refine (pairwise_spans_le d mode).imp_of_mem fun {s u} hs _ hle heq => ?_
  obtain ⟨start, hstands, -⟩ := exists_standsAt_of_mem_spans hs
  have hlt := hstands.start_lt_stop
  simp only [SpanKey.ofRange, SpanKey.mk.injEq] at heq
  rw [Position.lt_def] at hlt
  rw [Position.le_def] at hle
  omega

/-- The document between the ends of a span is the text of the span. -/
theorem slice_offsetAt_of_mem_spans (hmode : mode = .all ∨ '\r' ∉ d.text) (hs : s ∈ d.spans mode) :
    d.text.slice (d.offsetAt s.range.start) (d.offsetAt s.range.stop) = s.text := by
  obtain ⟨start, hstands, hall⟩ := exists_standsAt_of_mem_spans hs
  obtain ⟨hstart, hstop⟩ := hstands.offsetAt_ends (hmode.symm.imp_right hall)
  rw [hstart, hstop]
  exact Text.slice_of_prefix_drop hstands.text

/-- The ends of a span come back as the offsets between which its text stands. -/
theorem offsetAt_lt_of_mem_spans (hmode : mode = .all ∨ '\r' ∉ d.text) (hs : s ∈ d.spans mode) :
    d.offsetAt s.range.start < d.offsetAt s.range.stop ∧ d.offsetAt s.range.stop ≤ d.text.length := by
  obtain ⟨start, hstands, hall⟩ := exists_standsAt_of_mem_spans hs
  obtain ⟨hstart, hstop⟩ := hstands.offsetAt_ends (hmode.symm.imp_right hall)
  have hpos := List.length_pos_iff.mpr hstands.nonempty
  rw [hstart, hstop]
  exact ⟨by omega, hstands.stop_le⟩

/-- The offsets of spans do not overlap and are in order, where no return is in the way. -/
theorem pairwise_offsetAt_spans (hmode : mode = .all ∨ '\r' ∉ d.text) :
    (d.spans mode).Pairwise fun s u => d.offsetAt s.range.stop ≤ d.offsetAt u.range.start := by
  refine (pairwise_spans d mode).imp_of_mem fun {s u} hs hu ⟨a, b, hsa, hub, hle⟩ => ?_
  obtain ⟨-, -, hall⟩ := exists_standsAt_of_mem_spans hs
  obtain ⟨-, -, hall'⟩ := exists_standsAt_of_mem_spans hu
  rw [(hsa.offsetAt_ends (hmode.symm.imp_right hall)).2,
    (hub.offsetAt_ends (hmode.symm.imp_right hall')).1]
  exact hle

/-- **Spans are faithful to their document.** Whatever is to be folded of an occurrence is found in it
and has its ends in order, so it becomes a span. -/
theorem spans_faithful (d : Document) (mode : Mode) :
    (∀ m ∈ Occurrence.all d.text, ∀ target, m.found.target? mode = some target →
      ∃ k r, Text.find? target m.found.text = some k ∧
        Range.between? (d.positionAt (m.offset + k : Nat))
          (d.positionAt (m.offset + k + target.length : Nat)) = some r ∧
        ⟨r, target, m.found.form⟩ ∈ d.spans mode) ∧
      (∀ s ∈ d.spans mode, s.text ≠ [] ∧ s.range.start < s.range.stop) ∧
      (d.spans mode).Pairwise (fun s u => s.range.stop ≤ u.range.start) ∧
      ((d.spans mode).map fun s => SpanKey.ofRange s.range).Nodup ∧
      (mode = .all ∨ '\r' ∉ d.text → ∀ s ∈ d.spans mode,
        d.text.slice (d.offsetAt s.range.start) (d.offsetAt s.range.stop) = s.text) := by
  refine ⟨fun m hm target ht => ?_, fun s hs => ?_, pairwise_spans_le d mode, nodup_keys_spans d mode,
    fun hmode s hs => slice_offsetAt_of_mem_spans hmode hs⟩
  · obtain ⟨hwf, -⟩ := Occurrence.wellFormed_of_mem_all hm
    obtain ⟨-, k, hk⟩ := Attribute.exists_find?_of_target? hwf ht
    refine ⟨k, d.rangeAt (m.offset + k) target.length, hk, Range.between?_positionAt d _ _, ?_⟩
    exact mem_spans_iff.mpr ⟨m, hm, (Span.ofOccurrence?_eq_some_iff hm).mpr ⟨target, k, ht, hk, rfl⟩⟩
  · obtain ⟨start, hstands, -⟩ := exists_standsAt_of_mem_spans hs
    exact ⟨hstands.nonempty, hstands.start_lt_stop⟩

end Document

end AttrFold
