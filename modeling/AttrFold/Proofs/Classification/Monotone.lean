import Mathlib.Data.List.Basic
import AttrFold.Proofs.Classification

/-!
# Classifications compared

What becomes of a classification when one of its inputs changes. More selections, a higher threshold and
leaving selected lines alone can only turn spans back to what they are in the document; a looser cap can
only turn dimmed spans into placeholders (`classify_monotone`). Such a change is written as `OnlyMoves`,
which speaks of the buckets of both classifications.

## The crux

A span is unfolded for one of four reasons (`Spares`), and no cap plays a part in them; of a span
without a reason the cap alone decides (`Exceeds`). So the cascade of rules is gone through once, in
`dispose_of_spares`, `dispose_of_exceeds` and `dispose_of_not_exceeds`. After that an input is
compared with another one by its reasons (`Spares.mono`) or by its cap (`CapLoosens`), span by span,
and `onlyMoves_classify` carries this over to the buckets.
-/

namespace AttrFold

namespace Settings

variable {s s' : Settings} {selections more : List Selection} {cap cap' : Option Int} {span : Span}

/-! ## The three rules

A span with a reason to stay as it is stays so; of the other ones those that exceed the cap are
dimmed and those that keep to it are folded. -/

/-- Whether a span stays as it is: nothing is folded, or a selection holds the span or lies in it,
or one starts on its first line and such lines are left alone, or the span is too short. -/
def Spares (s : Settings) (selections : List Selection) (span : Span) : Prop :=
  s.autoFold = false
    ∨ (∃ sel ∈ selections, sel.toRange.Contains span.range ∨ span.range.Contains sel.toRange)
    ∨ (s.unfoldIfLineSelected = true ∧ ∃ sel ∈ selections, sel.start.line = span.range.start.line)
    ∨ (span.text.length : Int) < s.foldLengthThreshold

/-- Whether there is a cap and a span is longer. -/
def Exceeds (cap : Option Int) (span : Span) : Prop := ∃ c, cap = some c ∧ c < span.text.length

/-- What is spared is unfolded, whatever the cap is. -/
theorem dispose_of_spares (h : s.Spares selections span) (cap : Option Int) :
    s.dispose selections cap span = .unfolded := by
  unfold dispose
  rcases h with hoff | hselected | hline | hshort
  · simp [hoff]
  · simp [hselected]
  · simp [hline]
  · simp [hshort]

/-- A span longer than the cap is faded unless it is spared. -/
theorem dispose_of_exceeds (h : ¬s.Spares selections span) (hlong : Exceeds cap span) :
    s.dispose selections cap span = .faded := by
  unfold Spares at h
  simp only [not_or] at h
  obtain ⟨c, rfl, hlt⟩ := hlong
  simp [dispose, h, hlt]

/-- A span within the cap is folded unless it is spared. -/
theorem dispose_of_not_exceeds (h : ¬s.Spares selections span) (hlong : ¬Exceeds cap span) :
    s.dispose selections cap span = .folded := by
  unfold Spares at h
  simp only [not_or] at h
  cases cap with
  | none => simp [dispose, h]
  | some c =>
    have hle : ¬c < span.text.length := fun hlt => hlong ⟨c, rfl, hlt⟩
    simp [dispose, h, hle]

/-- Only what is spared is unfolded. -/
theorem dispose_eq_unfolded_iff :
    s.dispose selections cap span = .unfolded ↔ s.Spares selections span := by
  refine ⟨fun h => ?_, fun h => dispose_of_spares h cap⟩
  by_contra hspared
  by_cases hlong : Exceeds cap span
  · cases (dispose_of_exceeds hspared hlong).symm.trans h
  · cases (dispose_of_not_exceeds hspared hlong).symm.trans h

theorem exceeds_of_faded (h : s.dispose selections cap span = .faded) : Exceeds cap span := by
  have hspared : ¬s.Spares selections span := by
    intro hspared
    cases (dispose_of_spares hspared cap).symm.trans h
  by_contra hlong
  cases (dispose_of_not_exceeds hspared hlong).symm.trans h

theorem not_exceeds_of_folded (h : s.dispose selections cap span = .folded) :
    ¬Exceeds cap span := by
  have hspared : ¬s.Spares selections span := by
    intro hspared
    cases (dispose_of_spares hspared cap).symm.trans h
  intro hlong
  cases (dispose_of_exceeds hspared hlong).symm.trans h

/-! ## Reasons and caps compared

A change of the inputs keeps all reasons or keeps them as they are; in the first case the cap is the
same, in the second one it may change. -/

/-- Reasons to leave a span as it is stay reasons when selections are added, when lines are left
alone that were not, and when the threshold is raised. -/
theorem Spares.mono (hfold : s'.autoFold = s.autoFold)
    (hline : s.unfoldIfLineSelected = true → s'.unfoldIfLineSelected = true)
    (hthreshold : s.foldLengthThreshold ≤ s'.foldLengthThreshold) (hmore : selections ⊆ more)
    (h : s.Spares selections span) : s'.Spares more span := by
  unfold Spares at h ⊢
  rcases h with hoff | ⟨sel, hsel, hholds⟩ | ⟨hlines, sel, hsel, hstart⟩ | hshort
  · exact Or.inl (hfold.trans hoff)
  · exact Or.inr (Or.inl ⟨sel, hmore hsel, hholds⟩)
  · exact Or.inr (Or.inr (Or.inl ⟨hline hlines, sel, hmore hsel, hstart⟩))
  · exact Or.inr (Or.inr (Or.inr (by omega)))

/-- A cap gives way to another one when it grows or disappears. -/
def CapLoosens (cap cap' : Option Int) : Prop := ∀ c', cap' = some c' → ∃ c, cap = some c ∧ c ≤ c'

/-- What is too long for a looser cap is too long for a tighter one. -/
theorem CapLoosens.exceeds (h : CapLoosens cap cap') (hlong : Exceeds cap' span) :
    Exceeds cap span := by
  obtain ⟨c', hc', hlt⟩ := hlong
  obtain ⟨c, hc, hle⟩ := h c' hc'
  exact ⟨c, hc, by omega⟩

theorem one_le_lengthCap {wrapColumn : Option Int} {c : Int} (h : s.lengthCap wrapColumn = some c) :
    1 ≤ c := by
  unfold lengthCap at h
  split at h
  · next hset =>
    obtain rfl : s.foldMaxLength = c := Option.some.inj h
    omega
  · -- a cap that follows from the wrap column is there only beyond the margin
    split at h
    · next column =>
      split at h
      · next hbeyond =>
        obtain rfl : column - wrapMargin = c := Option.some.inj h
        omega
      · cases h
    · cases h

/-! ## What becomes of one span -/

/-- More reasons to leave a span as it is turn its disposition to unfolded or do not change it. -/
theorem dispose_of_spares_mono (h : s.Spares selections span → s'.Spares more span)
    (cap : Option Int) :
    s'.dispose more cap span = s.dispose selections cap span
      ∨ s.dispose selections cap span ∈ [.faded, .folded]
        ∧ s'.dispose more cap span = .unfolded := by
  by_cases hspared' : s'.Spares more span
  · rw [dispose_of_spares hspared']
    cases s.dispose selections cap span <;> simp
  · -- without a reason afterwards there was none before, and the cap is the same
    have hspared := mt h hspared'
    by_cases hlong : Exceeds cap span
    · rw [dispose_of_exceeds hspared hlong, dispose_of_exceeds hspared' hlong]
      exact Or.inl rfl
    · rw [dispose_of_not_exceeds hspared hlong, dispose_of_not_exceeds hspared' hlong]
      exact Or.inl rfl

/-- A looser cap turns the disposition of a span from faded to folded or does not change it. -/
theorem dispose_of_capLoosens (h : s'.Spares selections span ↔ s.Spares selections span)
    (hcap : CapLoosens cap cap') :
    s'.dispose selections cap' span = s.dispose selections cap span
      ∨ s.dispose selections cap span ∈ [.faded] ∧ s'.dispose selections cap' span = .folded := by
  by_cases hspared : s.Spares selections span
  · rw [dispose_of_spares hspared, dispose_of_spares (h.mpr hspared)]
    exact Or.inl rfl
  · have hspared' := mt h.mp hspared
    by_cases hlong' : Exceeds cap' span
    · -- too long for the looser cap means too long for the other one
      rw [dispose_of_exceeds hspared (hcap.exceeds hlong'), dispose_of_exceeds hspared' hlong']
      exact Or.inl rfl
    · rw [dispose_of_not_exceeds hspared' hlong']
      by_cases hlong : Exceeds cap span
      · exact Or.inr ⟨List.mem_singleton.mpr (dispose_of_exceeds hspared hlong), rfl⟩
      · exact Or.inl (dispose_of_not_exceeds hspared hlong).symm

end Settings

/-! ## What becomes of a classification -/

namespace Classification

/-- From one classification to another one spans only move to the bucket of `target`, and only from
the buckets of `sources`. They are the same spans; each one stays in its bucket or makes such a
move; and the spans of a bucket follow each other as before. -/
structure OnlyMoves (sources : List Disposition) (target : Disposition)
    (before after : Classification) : Prop where
  perm : (after.unfolded ++ after.faded ++ after.folded).Perm
    (before.unfolded ++ before.faded ++ before.folded)
  stays_or_moves : ∀ x, ∀ span ∈ before.bucket x,
    span ∈ after.bucket x ∨ x ∈ sources ∧ span ∈ after.bucket target
  gains : (before.bucket target).Sublist (after.bucket target)
  loses : ∀ x ∈ sources, (after.bucket x).Sublist (before.bucket x)
  keeps : ∀ x, x ≠ target → x ∉ sources → after.bucket x = before.bucket x

end Classification

namespace Settings

open Classification

variable {s s' : Settings} {selections selections' : List Selection}
  {wrapColumn wrapColumn' : Option Int}

/-- Classifications are compared by what becomes of each span. -/
theorem onlyMoves_classify {sources : List Disposition} {target : Disposition}
    (htarget : target ∉ sources)
    (h : ∀ span,
      s'.dispose selections' (s'.lengthCap wrapColumn') span
          = s.dispose selections (s.lengthCap wrapColumn) span
        ∨ s.dispose selections (s.lengthCap wrapColumn) span ∈ sources
          ∧ s'.dispose selections' (s'.lengthCap wrapColumn') span = target)
    (spans : List Span) :
    OnlyMoves sources target (s.classify selections wrapColumn spans)
      (s'.classify selections' wrapColumn' spans) := by
  have hbefore := s.bucket_classify selections wrapColumn spans
  have hafter := s'.bucket_classify selections' wrapColumn' spans
  have hperm := s.perm_classify selections wrapColumn spans
  have hperm' := s'.perm_classify selections' wrapColumn' spans
  -- of both classifications only the two dispositions matter from here on
  generalize s.dispose selections (s.lengthCap wrapColumn) = f at h hbefore
  generalize s'.dispose selections' (s'.lengthCap wrapColumn') = g at h hafter
  refine ⟨hperm'.trans hperm.symm, fun x span hspan => ?_, ?_, fun x hx => ?_, fun x hne hx => ?_⟩
  · rw [hbefore, List.mem_filter, decide_eq_true_iff] at hspan
    obtain ⟨hin, rfl⟩ := hspan
    simp only [hafter, List.mem_filter, decide_eq_true_iff, hin, true_and]
    exact h span
  · rw [hbefore, hafter]
    refine List.monotone_filter_right spans fun span hf => ?_
    rw [decide_eq_true_iff] at hf ⊢
    rcases h span with heq | ⟨-, hmoved⟩
    · exact heq.trans hf
    · exact hmoved
  · rw [hbefore, hafter]
    refine List.monotone_filter_right spans fun span hg => ?_
    rw [decide_eq_true_iff] at hg ⊢
    rcases h span with heq | ⟨-, hmoved⟩
    · exact heq.symm.trans hg
    · exact absurd (hmoved.symm.trans hg ▸ hx) htarget
  · rw [hbefore, hafter]
    refine List.filter_congr fun span _ => decide_eq_decide.mpr ?_
    rcases h span with heq | ⟨hsource, hmoved⟩
    · rw [heq]
    · refine ⟨fun hg => absurd (hg.symm.trans hmoved) hne, fun hf => ?_⟩
      exact absurd (hf ▸ hsource) hx

/-- With more reasons to leave spans as they are, spans only move to the unfolded ones. -/
theorem onlyMoves_of_spares_mono (hcap : s'.lengthCap wrapColumn = s.lengthCap wrapColumn)
    (h : ∀ span, s.Spares selections span → s'.Spares selections' span) (spans : List Span) :
    OnlyMoves [.faded, .folded] .unfolded (s.classify selections wrapColumn spans)
      (s'.classify selections' wrapColumn spans) := by
  refine onlyMoves_classify (by decide) (fun span => ?_) spans
  rw [hcap]
  exact dispose_of_spares_mono (h span) _

/-- The selections count as a set. -/
theorem classify_congr (h : ∀ sel, sel ∈ selections' ↔ sel ∈ selections) (s : Settings)
    (wrapColumn : Option Int) (spans : List Span) :
    s.classify selections' wrapColumn spans = s.classify selections wrapColumn spans := by
  have hany (p : Selection → Bool) : selections'.any p = selections.any p := by
    rw [Bool.eq_iff_iff, List.any_eq_true, List.any_eq_true]
    simp only [h]
  unfold classify dispose
  simp only [hany]

/-- **A classification is monotone in its inputs.** Selections count as a set, and adding some only
moves spans to the unfolded ones, as does a higher threshold or leaving selected lines alone. The
unfolded spans do not depend on the cap, and when it grows or disappears, spans only move from the
faded to the folded ones. Whatever the inputs, folded spans keep to the cap and faded ones are
longer, and a cap leaves room for a character. -/
theorem classify_monotone (s : Settings) (selections : List Selection) (wrapColumn : Option Int)
    (spans : List Span) :
    (∀ others : List Selection, (∀ sel, sel ∈ others ↔ sel ∈ selections) →
        s.classify others wrapColumn spans = s.classify selections wrapColumn spans)
      ∧ (∀ more : List Selection, selections ⊆ more →
        OnlyMoves [.faded, .folded] .unfolded (s.classify selections wrapColumn spans)
          (s.classify more wrapColumn spans))
      ∧ (∀ n, s.foldLengthThreshold ≤ n →
        OnlyMoves [.faded, .folded] .unfolded (s.classify selections wrapColumn spans)
          ({ s with foldLengthThreshold := n }.classify selections wrapColumn spans))
      ∧ OnlyMoves [.faded, .folded] .unfolded (s.classify selections wrapColumn spans)
          ({ s with unfoldIfLineSelected := true }.classify selections wrapColumn spans)
      ∧ (∀ n column,
        ({ s with foldMaxLength := n }.classify selections column spans).unfolded
          = (s.classify selections wrapColumn spans).unfolded)
      ∧ (∀ n column,
        CapLoosens (s.lengthCap wrapColumn) ({ s with foldMaxLength := n }.lengthCap column) →
        OnlyMoves [.faded] .folded (s.classify selections wrapColumn spans)
          ({ s with foldMaxLength := n }.classify selections column spans))
      ∧ (∀ span ∈ (s.classify selections wrapColumn spans).folded,
        ∀ c, s.lengthCap wrapColumn = some c → (span.text.length : Int) ≤ c)
      ∧ (∀ span ∈ (s.classify selections wrapColumn spans).faded,
        ∃ c, s.lengthCap wrapColumn = some c ∧ c < span.text.length)
      ∧ ∀ c, s.lengthCap wrapColumn = some c → 1 ≤ c := by
  refine ⟨fun others hothers => ?_, fun more hmore => ?_, fun n hn => ?_, ?_, fun n column => ?_,
    fun n column hcap => ?_, fun span hspan => ?_, fun span hspan => ?_, fun c hc => ?_⟩
  · exact classify_congr hothers s wrapColumn spans
  · -- each of these changes spares more spans, and can move a span only to the unfolded ones
    apply onlyMoves_of_spares_mono
    · rfl
    · intro span hspared
      exact Spares.mono (s := s) rfl id (Int.le_refl _) hmore hspared
  · apply onlyMoves_of_spares_mono
    · rfl
    · intro span hspared
      exact Spares.mono (s := s) rfl id hn (List.Subset.refl _) hspared
  · apply onlyMoves_of_spares_mono
    · rfl
    · intro span hspared
      exact Spares.mono (s := s) rfl (fun _ => rfl) (Int.le_refl _) (List.Subset.refl _) hspared
  · -- no reason to leave a span as it is speaks of a length cap
    have hbefore := s.bucket_classify selections wrapColumn spans .unfolded
    have hafter := { s with foldMaxLength := n }.bucket_classify selections column spans .unfolded
    refine hafter.trans (Eq.trans (List.filter_congr fun span _ => ?_) hbefore.symm)
    rw [decide_eq_decide, dispose_eq_unfolded_iff, dispose_eq_unfolded_iff]
    exact Iff.rfl
  · refine onlyMoves_classify (by decide) (fun span => ?_) spans
    exact dispose_of_capLoosens Iff.rfl hcap
  · have hfolded := (s.mem_bucket_classify_iff selections wrapColumn spans .folded span).mp hspan
    have hshort := not_exceeds_of_folded hfolded.2
    exact fun c hc => Int.not_lt.mp fun hlt => hshort ⟨c, hc, hlt⟩
  · have hfaded := (s.mem_bucket_classify_iff selections wrapColumn spans .faded span).mp hspan
    exact exceeds_of_faded hfaded.2
  · exact one_le_lengthCap hc

/-- A cursor in a faded span, and a wrap column in place of a cap. -/
theorem classify_monotone_cursor_and_column :
    OnlyMoves [.faded, .folded] .unfolded
        ({ autoFold := true, foldMaxLength := 1 : Settings }.classify [] none
          [⟨⟨⟨0, 0⟩, ⟨0, 2⟩, by decide⟩, "ab", .quotedContent⟩])
        ({ autoFold := true, foldMaxLength := 1 : Settings }.classify [.cursor ⟨0, 1⟩] none
          [⟨⟨⟨0, 0⟩, ⟨0, 2⟩, by decide⟩, "ab", .quotedContent⟩])
      ∧ OnlyMoves [.faded] .folded
        ({ autoFold := true, foldMaxLength := 1 : Settings }.classify [] none
          [⟨⟨⟨0, 0⟩, ⟨0, 2⟩, by decide⟩, "ab", .quotedContent⟩])
        ({ autoFold := true, foldMaxLength := 0 : Settings }.classify [] (some 12)
          [⟨⟨⟨0, 0⟩, ⟨0, 2⟩, by decide⟩, "ab", .quotedContent⟩]) := by
  obtain ⟨-, hmore, -, -, -, hcap, -⟩ :=
    classify_monotone { autoFold := true, foldMaxLength := 1 } [] none
      [⟨⟨⟨0, 0⟩, ⟨0, 2⟩, by decide⟩, "ab", .quotedContent⟩]
  refine ⟨hmore [.cursor ⟨0, 1⟩] (List.nil_subset _), hcap 0 (some 12) fun c hc => ?_⟩
  obtain rfl : 2 = c := Option.some.inj hc
  exact ⟨1, rfl, by decide⟩

end Settings

end AttrFold
