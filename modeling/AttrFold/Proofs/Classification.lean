import Mathlib.Data.List.Nodup
import AttrFold.Classification
import AttrFold.Proofs.Entries

/-!
# The buckets and the index of a classification

Spans are put into buckets one after the other, so each bucket holds the spans of its disposition in
their order (`bucket_classify`). The index is made of the entries of those that are not unfolded
(`index_classify`): a key keeps the place where it first appears and has the text that was recorded last
(`classify_partitions_in_order`). When spans have different keys the index is these entries as they are,
and the spans are shared out between the buckets and the index (`shares_classify`).
-/

namespace AttrFold

/-- The entry that an index has for a span: its text under the key of its range. -/
def Span.entry (s : Span) : SpanKey × Text := (.ofRange s.range, s.text)

namespace Classification

/-- Adding a span extends the bucket of its disposition at its end, and no other. -/
theorem bucket_add (c : Classification) (span : Span) (x y : Disposition) :
    (c.add span x).bucket y = c.bucket y ++ [span].filter fun _ => x = y := by
  cases x <;> cases y <;> simp [add, bucket]

/-- What a run of additions leaves in a bucket, after what was there before. -/
theorem bucket_foldl_add (f : Span → Disposition) (spans : List Span) (c : Classification)
    (x : Disposition) :
    (spans.foldl (fun c span => c.add span (f span)) c).bucket x
      = c.bucket x ++ spans.filter fun span => f span = x := by
  induction spans generalizing c with
  | nil => rw [List.foldl_nil, List.filter_nil, List.append_nil]
  | cons span spans ih =>
    rw [List.foldl_cons, ih, bucket_add, List.append_assoc]
    by_cases hx : f span = x <;> simp [hx]

/-- Adding a span puts it into the index unless it is unfolded. -/
theorem index_add (c : Classification) (span : Span) (x : Disposition) :
    (c.add span x).index
      = Entries.putAll (([span].filter fun _ => x ≠ .unfolded).map Span.entry) c.index := by
  cases x <;> rfl

/-- What a run of additions puts into the index. -/
theorem index_foldl_add (f : Span → Disposition) (spans : List Span) (c : Classification) :
    (spans.foldl (fun c span => c.add span (f span)) c).index
      = Entries.putAll ((spans.filter fun span => f span ≠ .unfolded).map Span.entry) c.index := by
  induction spans generalizing c with
  | nil => rfl
  | cons span spans ih =>
    rw [List.foldl_cons, ih, index_add]
    unfold Entries.putAll
    rw [← List.foldl_append, ← List.map_append]
    by_cases hx : f span = .unfolded <;> simp [hx]

/-- A classification shares spans out: each of them is in one bucket, and those that are faded or folded
have one entry each in the index, in the order of the spans. -/
structure Shares (c : Classification) (spans : List Span) : Prop where
  perm : (c.unfolded ++ c.faded ++ c.folded).Perm spans
  index : c.index = (spans.filter fun s => s ∈ c.faded ∨ s ∈ c.folded).map Span.entry
  nodup : (Entries.keys c.index).Nodup
  unfolded : ∀ s ∈ c.unfolded, SpanKey.ofRange s.range ∉ Entries.keys c.index

end Classification

namespace Settings

variable (s : Settings) (selections : List Selection) (wrapColumn : Option Int) (spans : List Span)

/-- Each bucket holds the spans of its disposition, in their order. -/
theorem bucket_classify (x : Disposition) :
    (s.classify selections wrapColumn spans).bucket x
      = spans.filter fun span => s.dispose selections (s.lengthCap wrapColumn) span = x := by
  unfold classify
  rw [Classification.bucket_foldl_add]
  cases x <;> rfl

theorem mem_bucket_classify_iff (x : Disposition) (span : Span) :
    span ∈ (s.classify selections wrapColumn spans).bucket x
      ↔ span ∈ spans ∧ s.dispose selections (s.lengthCap wrapColumn) span = x := by
  rw [bucket_classify, List.mem_filter, decide_eq_true_eq]

/-- The index is made up of the spans that are not unfolded, in their order. -/
theorem index_classify : (s.classify selections wrapColumn spans).index
    = Entries.ofPairs ((spans.filter fun span =>
        s.dispose selections (s.lengthCap wrapColumn) span ≠ .unfolded).map Span.entry) :=
  Classification.index_foldl_add _ spans {}

/-- Of the spans in hand, the faded and the folded ones are those that are not unfolded. -/
theorem filter_decorated_classify :
    (spans.filter fun span => span ∈ (s.classify selections wrapColumn spans).faded
        ∨ span ∈ (s.classify selections wrapColumn spans).folded)
      = spans.filter fun span => s.dispose selections (s.lengthCap wrapColumn) span ≠ .unfolded := by
  refine List.filter_congr fun span hspan => ?_
  have hfaded := s.mem_bucket_classify_iff selections wrapColumn spans .faded span
  have hfolded := s.mem_bucket_classify_iff selections wrapColumn spans .folded span
  simp only [Classification.bucket] at hfaded hfolded
  rw [decide_eq_decide, hfaded, hfolded]
  cases s.dispose selections (s.lengthCap wrapColumn) span <;> simp [hspan]

/-- The three buckets together hold each span as often as the document does. -/
theorem perm_classify :
    ((s.classify selections wrapColumn spans).unfolded
      ++ (s.classify selections wrapColumn spans).faded
      ++ (s.classify selections wrapColumn spans).folded).Perm spans := by
  have hbucket := s.bucket_classify selections wrapColumn spans
  have hunfolded := hbucket .unfolded
  have hfaded := hbucket .faded
  have hfolded := hbucket .folded
  simp only [Classification.bucket] at hunfolded hfaded hfolded
  rw [hunfolded, hfaded, hfolded]
  generalize s.dispose selections (s.lengthCap wrapColumn) = f
  -- first the unfolded spans are taken out, then the faded ones; the rest is folded
  have hrest : (spans.filter fun span => f span = .faded) ++ (spans.filter fun span => f span = .folded)
      = ((spans.filter fun span => !decide (f span = .unfolded)).filter fun span => f span = .faded)
        ++ (spans.filter fun span => !decide (f span = .unfolded)).filter
          fun span => !decide (f span = .faded) := by
    rw [List.filter_filter, List.filter_filter]
    congr 1 <;> refine List.filter_congr fun span _ => ?_ <;> cases f span <;> rfl
  rw [List.append_assoc, hrest]
  exact ((List.filter_append_perm _ _).append_left _).trans (List.filter_append_perm _ _)

/-- Spans with different keys are shared out between the buckets and the index. -/
theorem shares_classify (hnodup : (spans.map fun span => SpanKey.ofRange span.range).Nodup) :
    (s.classify selections wrapColumn spans).Shares spans := by
  have hkeys : ∀ p : Span → Bool, (Entries.keys ((spans.filter p).map Span.entry)).Nodup := by
    intro p
    unfold Entries.keys
    rw [List.map_map]
    exact hnodup.sublist (List.filter_sublist.map _)
  have hindex : (s.classify selections wrapColumn spans).index
      = (spans.filter fun span => span ∈ (s.classify selections wrapColumn spans).faded
          ∨ span ∈ (s.classify selections wrapColumn spans).folded).map Span.entry := by
    rw [index_classify, filter_decorated_classify, Entries.ofPairs_of_nodup (hkeys _)]
  refine ⟨s.perm_classify selections wrapColumn spans, hindex, ?_, fun span hspan hmem => ?_⟩
  · rw [hindex]
    exact hkeys _
  · -- a key in the index is that of a span which is not unfolded, and no other span has it
    obtain ⟨hin, hunfolded⟩ :=
      (s.mem_bucket_classify_iff selections wrapColumn spans .unfolded span).mp hspan
    rw [hindex, filter_decorated_classify, Entries.keys, List.map_map] at hmem
    obtain ⟨other, hother, hkey⟩ := List.mem_map.mp hmem
    obtain ⟨hinOther, hdecorated⟩ := List.mem_filter.mp hother
    obtain rfl : other = span := List.inj_on_of_nodup_map hnodup hinOther hin hkey
    exact of_decide_eq_true hdecorated hunfolded

theorem size_classify : (s.classify selections wrapColumn spans).size = spans.length := by
  rw [← (s.perm_classify selections wrapColumn spans).length_eq, List.length_append,
    List.length_append]
  rfl

/-- **A classification is a partition that keeps the order, and its index is made of what it does
not leave unfolded.** Each bucket holds the spans of its disposition, as they follow each other and
as often as they occur, so the sizes of the buckets add up. The index has the keys of the other
spans as they first appear, and under each key the text of the last of them. -/
theorem classify_partitions_in_order :
    (∀ x, (s.classify selections wrapColumn spans).bucket x
        = spans.filter fun span => s.dispose selections (s.lengthCap wrapColumn) span = x)
      ∧ (s.classify selections wrapColumn spans).size = spans.length
      ∧ Entries.keys (s.classify selections wrapColumn spans).index
        = ((spans.filter fun span =>
            s.dispose selections (s.lengthCap wrapColumn) span ≠ .unfolded).map fun span =>
              SpanKey.ofRange span.range).eraseDups
      ∧ ∀ k, Entries.get? k (s.classify selections wrapColumn spans).index
        = (spans.filter fun span =>
            s.dispose selections (s.lengthCap wrapColumn) span ≠ .unfolded
              ∧ SpanKey.ofRange span.range = k).getLast?.map Span.text := by
  refine ⟨s.bucket_classify selections wrapColumn spans, s.size_classify selections wrapColumn spans,
    ?_, fun k => ?_⟩
  · rw [index_classify, Entries.keys_ofPairs, Entries.keys, List.map_map]
    rfl
  · rw [index_classify, Entries.get?_ofPairs, List.filter_map, List.filter_filter,
      List.getLast?_map, Option.map_map]
    refine congrArg (fun l : List Span => l.getLast?.map Span.text) ?_
    refine List.filter_congr fun span _ => ?_
    rw [Bool.decide_and, Bool.and_comm]
    rfl

end Settings

end AttrFold
