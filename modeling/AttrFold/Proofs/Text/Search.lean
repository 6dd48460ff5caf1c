import AttrFold.Attribute.Reader

/-!
# Searches in a text

What the searches of `Text` find, one equivalence for each: a cut ends before the first occurrence of
its character, `upTo?` stops at the first place that can be closed, and `find?` gives the first offset
at which a pattern stands. A part that stands at an offset is written as a prefix of what is left
after the offset, `part <+: t.drop o`.
-/

namespace AttrFold.Text

/-! ## Prefixes and slices -/

/-- What follows a start is the text without it. -/
theorem afterPrefix?_eq_some_iff {start t rest : Text} :
    afterPrefix? start t = some rest ↔ t = start ++ rest := by
  unfold afterPrefix?
  constructor
  · intro h
    split at h
    · next hp =>
      obtain ⟨r, rfl⟩ := List.isPrefixOf_iff_prefix.mp hp
      rw [List.drop_left] at h
      rw [Option.some.inj h]
    · cases h
  · rintro rfl
    have hp : start.isPrefixOf (start ++ rest) = true :=
      List.isPrefixOf_iff_prefix.mpr (List.prefix_append start rest)
    rw [if_pos hp, List.drop_left]

/-- The characters of a slice are those of the text from its start on. -/
theorem getElem?_slice {t : Text} {start stop i : Nat} (h : start + i < stop) :
    (t.slice start stop)[i]? = t[start + i]? := by
  unfold slice
  rw [List.getElem?_take_of_lt (by omega), List.getElem?_drop]

/-- A slice and what follows it are what follows its start. -/
theorem slice_append_drop {t : Text} {a b : Nat} (h : a ≤ b) : t.slice a b ++ t.drop b = t.drop a := by
  unfold slice
  rw [show t.drop b = (t.drop a).drop (b - a) from by rw [List.drop_drop, Nat.add_sub_cancel' h],
    List.take_append_drop]

/-- Two slices that touch are one. -/
theorem slice_append_slice {t : Text} {a b c : Nat} (hab : a ≤ b) (hbc : b ≤ c) :
    t.slice a b ++ t.slice b c = t.slice a c := by
  unfold slice
  rw [show c - a = (b - a) + (c - b) by omega, List.take_add, List.drop_drop, Nat.add_sub_cancel' hab]

theorem slice_take {t : Text} (a : Nat) {b n : Nat} (h : b ≤ n) :
    slice (t.take n) a b = t.slice a b := by
  unfold slice
  rw [List.drop_take, List.take_take, Nat.min_eq_left (Nat.sub_le_sub_right h a)]

theorem mem_of_mem_slice {t : Text} {a b : Nat} {c : Char} (h : c ∈ t.slice a b) : c ∈ t :=
  List.mem_of_mem_drop (List.mem_of_mem_take h)

/-- A character of a slice stands between its ends. -/
theorem exists_getElem?_of_mem_slice {t : Text} {a b : Nat} {c : Char} (h : c ∈ t.slice a b) :
    ∃ j, a ≤ j ∧ j < b ∧ t[j]? = some c := by
  obtain ⟨i, hi⟩ := List.getElem?_of_mem h
  have hlt := (List.getElem?_eq_some_iff.mp hi).1
  unfold slice at hlt
  rw [List.length_take] at hlt
  rw [getElem?_slice (by omega)] at hi
  exact ⟨a + i, by omega, by omega, hi⟩

theorem length_slice {t : Text} (start : Nat) {stop : Nat} (h : stop ≤ t.length) :
    (t.slice start stop).length = stop - start := by
  unfold slice
  rw [List.length_take, List.length_drop]
  omega

/-- A slice grows by the character at its end. -/
theorem slice_succ {t : Text} {start k : Nat} {c : Char} (hstart : start ≤ k)
    (hk : t[k]? = some c) : t.slice start (k + 1) = t.slice start k ++ [c] := by
  unfold slice
  rw [show k + 1 - start = k - start + 1 by omega, List.take_add_one, List.getElem?_drop,
    show start + (k - start) = k by omega, hk]
  rfl

/-- A part that stands at an offset is the slice from there on over its length. -/
theorem slice_of_prefix_drop {part t : Text} {o : Nat} (h : part <+: t.drop o) :
    t.slice o (o + part.length) = part := by
  unfold slice
  rw [Nat.add_sub_cancel_left]
  exact (List.prefix_iff_eq_take.mp h).symm

/-- What stands at an offset ends within the text. -/
theorem add_length_le_of_prefix_drop {part t : Text} {o : Nat} (h : part <+: t.drop o)
    (hne : part ≠ []) : o + part.length ≤ t.length := by
  have hlen := h.length_le
  have hpos := List.length_pos_iff.mpr hne
  rw [List.length_drop] at hlen
  omega

/-- Every character of a part that stands at an offset is the one of the text at its place. -/
theorem getElem?_of_prefix_drop {part t : Text} {o i : Nat} (h : part <+: t.drop o)
    (hi : i < part.length) : t[o + i]? = part[i]? := by
  obtain ⟨r, hr⟩ := h
  rw [← List.getElem?_drop, ← hr, List.getElem?_append_left hi]

/-! ## Blanks before a character -/

/-- The text begins with exactly the given blanks and then the character. -/
theorem blanks_then_iff (t blanks : Text) {c : Char} (hc : isBlank c = false) :
    t.takeWhile isBlank = blanks ∧ (t.dropWhile isBlank).head? = some c ↔
      (∀ b ∈ blanks, isBlank b) ∧ blanks ++ [c] <+: t := by
  refine ⟨fun h => ?_, fun h => ?_⟩
  · obtain ⟨rfl, hhead⟩ := h
    obtain ⟨r, hr⟩ := List.head?_eq_some_iff.mp hhead
    refine ⟨fun b hb => List.all_eq_true.mp List.all_takeWhile b hb, r, ?_⟩
    rw [List.append_assoc, List.singleton_append, ← hr, List.takeWhile_append_dropWhile]
  · obtain ⟨hblanks, r, rfl⟩ := h
    rw [List.append_assoc, List.takeWhile_append_of_pos hblanks,
      List.dropWhile_append_of_pos hblanks]
    simp [hc]

/-! ## The searches

Each goes through the text from its beginning, and so does the induction: what holds of the first place
holds of the whole text when the first character is passed. -/

/-- A text is cut at the first of the characters. -/
theorem cut?_eq_some_iff {c : Char} {t a b : Text} :
    cut? c t = some (a, b) ↔ t = a ++ c :: b ∧ c ∉ a := by
  induction t generalizing a with
  | nil => simp [cut?]
  | cons d ds ih =>
    -- the cut is here, or else the character is kept and the cut is further on
    by_cases hd : d = c
    · subst hd
      cases a with
      | nil => simp [cut?, eq_comm]
      | cons e es =>
        simp only [cut?, if_true, Option.some.injEq, Prod.mk.injEq, List.cons_append,
          List.cons.injEq, List.mem_cons, not_or]
        refine ⟨fun h => ?_, fun h => ?_⟩
        · obtain ⟨h, _⟩ := h
          cases h
        · obtain ⟨⟨h, _⟩, hne, _⟩ := h
          exact absurd h hne
    · cases a with
      | nil => simp [cut?, hd]
      | cons e es =>
        simp only [cut?, if_neg hd, Option.map_eq_some_iff, List.cons_append, List.cons.injEq,
          List.mem_cons, not_or]
        refine ⟨fun h => ?_, fun h => ?_⟩
        · obtain ⟨⟨x, y⟩, hxy, heq⟩ := h
          cases heq
          obtain ⟨rfl, hmem⟩ := ih.mp hxy
          exact ⟨⟨rfl, rfl⟩, fun h => hd h.symm, hmem⟩
        · obtain ⟨⟨rfl, rfl⟩, -, hmem⟩ := h
          exact ⟨(es, b), ih.mpr ⟨rfl, hmem⟩, rfl⟩

/-- A text has one part before the first `c` in it. -/
theorem eq_of_first {c : Char} {a a' b b' : Text} (ha : c ∉ a) (ha' : c ∉ a')
    (h : a ++ c :: b = a' ++ c :: b') : a = a' ∧ b = b' := by
  have hcut : cut? c (a ++ c :: b) = some (a', b') := cut?_eq_some_iff.mpr ⟨h, ha'⟩
  rw [cut?_eq_some_iff.mpr ⟨rfl, ha⟩] at hcut
  exact Prod.mk.inj (Option.some.inj hcut)

/-- A cut at a character that occurs leaves a first part no longer than any other that ends there. -/
theorem exists_cut?_of_append {c : Char} {a b : Text} :
    ∃ a' b', cut? c (a ++ c :: b) = some (a', b') ∧ a' <+: a := by
  induction a with
  | nil => exact ⟨[], b, by simp [cut?], List.prefix_rfl⟩
  | cons d ds ih =>
    by_cases hd : d = c
    · exact ⟨[], ds ++ c :: b, by simp [cut?, hd], List.nil_prefix⟩
    · obtain ⟨a', b', hcut, hpre⟩ := ih
      exact ⟨d :: a', b', by simp [cut?, hd, hcut], List.cons_prefix_cons.mpr ⟨rfl, hpre⟩⟩

/-- A text without the character is not cut. -/
theorem cut?_eq_none_iff {c : Char} {t : Text} : cut? c t = none ↔ c ∉ t := by
  refine ⟨fun h hmem => ?_, fun h => ?_⟩
  · obtain ⟨a, b, rfl⟩ := List.append_of_mem hmem
    obtain ⟨a', b', hcut, -⟩ : ∃ a' b', cut? c (a ++ c :: b) = some (a', b') ∧ a' <+: a :=
      exists_cut?_of_append
    rw [h] at hcut
    cases hcut
  · cases hcut : cut? c t with
    | none => rfl
    | some ab =>
      obtain ⟨rfl, -⟩ := cut?_eq_some_iff.mp hcut
      exact absurd (List.mem_append_right ab.1 List.mem_cons_self) h

section UpTo

variable {closer? : Text → Option Text}

/-- The closer that is found is the first one. -/
theorem upTo?_eq_some_iff {t inner closer : Text} :
    upTo? closer? t = some (inner, closer) ↔
      inner <+: t ∧ closer? (t.drop inner.length) = some closer ∧
        ∀ k < inner.length, closer? (t.drop k) = none := by
  induction t generalizing inner with
  | nil =>
    refine ⟨fun h => ?_, fun h => ?_⟩
    · obtain ⟨z, hz, heq⟩ := Option.map_eq_some_iff.mp h
      cases heq
      exact ⟨List.prefix_rfl, hz, fun k hk => absurd hk (Nat.not_lt_zero k)⟩
    · obtain ⟨hpre, hz, -⟩ := h
      obtain rfl := List.prefix_nil.mp hpre
      exact Option.map_eq_some_iff.mpr ⟨closer, hz, rfl⟩
  | cons c cs ih =>
    unfold upTo?
    cases hc : closer? (c :: cs) with
    | some z =>
      cases inner with
      | nil => simp [hc]
      | cons d ds =>
        -- the text can be closed at once, so no later place is the first
        simp only [Option.some.injEq, Prod.mk.injEq]
        refine ⟨fun h => ?_, fun h => ?_⟩
        · obtain ⟨h, -⟩ := h
          cases h
        · obtain ⟨-, -, hfirst⟩ := h
          have := hfirst 0 (by simp)
          rw [List.drop_zero, hc] at this
          cases this
    | none =>
      cases inner with
      | nil => simp [hc]
      | cons d ds =>
        simp only [Option.map_eq_some_iff]
        refine ⟨fun h => ?_, fun h => ?_⟩
        · obtain ⟨⟨x, y⟩, hxy, heq⟩ := h
          cases heq
          obtain ⟨hpre, hz, hfirst⟩ := ih.mp hxy
          refine ⟨List.cons_prefix_cons.mpr ⟨rfl, hpre⟩, hz, fun k hk => ?_⟩
          cases k with
          | zero => exact hc
          | succ k => exact hfirst k (Nat.lt_of_succ_lt_succ hk)
        · obtain ⟨hpre, hz, hfirst⟩ := h
          obtain ⟨rfl, htail⟩ := List.cons_prefix_cons.mp hpre
          have hrest := fun k (hk : k < ds.length) => hfirst (k + 1) (Nat.succ_lt_succ hk)
          exact ⟨(ds, closer), ih.mpr ⟨htail, hz, hrest⟩, rfl⟩

/-- No closer is found only where none stands anywhere. -/
theorem upTo?_eq_none_iff {t : Text} :
    upTo? closer? t = none ↔ ∀ k, closer? (t.drop k) = none := by
  induction t with
  | nil => simp [upTo?]
  | cons c cs ih =>
    unfold upTo?
    cases hc : closer? (c :: cs) with
    | some z =>
      simp only [reduceCtorEq, false_iff]
      intro h
      have := h 0
      rw [List.drop_zero, hc] at this
      cases this
    | none =>
      rw [Option.map_eq_none_iff, ih]
      constructor
      · intro h k
        cases k with
        | zero => exact hc
        | succ k => exact h k
      · intro h k
        exact h (k + 1)

end UpTo

/-- The place that is found is the first one where the pattern stands. -/
theorem find?_eq_some_iff {pattern t : Text} {k : Nat} :
    find? pattern t = some k ↔
      k ≤ t.length ∧ pattern <+: t.drop k ∧ ∀ j < k, ¬pattern <+: t.drop j := by
  induction t generalizing k with
  | nil =>
    cases pattern <;> cases k <;> simp [find?]
  | cons c cs ih =>
    unfold find?
    -- either the pattern stands here, or all places move by one
    by_cases hp : pattern <+: c :: cs
    · rw [if_pos (List.isPrefixOf_iff_prefix.mpr hp)]
      cases k with
      | zero => simp [hp]
      | succ k =>
        simp only [Option.some.injEq, reduceCtorEq, false_iff]
        intro h
        obtain ⟨-, -, hfirst⟩ := h
        exact hfirst 0 (Nat.succ_pos k) hp
    · rw [if_neg (fun h => hp (List.isPrefixOf_iff_prefix.mp h))]
      cases k with
      | zero => simp [hp]
      | succ k =>
        simp only [Option.map_eq_some_iff, Nat.succ_inj, exists_eq_right, ih, List.length_cons,
          Nat.succ_le_succ_iff, List.drop_succ_cons]
        refine and_congr_right fun _ => and_congr_right fun _ => ⟨fun h j hj => ?_, fun h j hj => ?_⟩
        · cases j with
          | zero => exact hp
          | succ j => exact h j (Nat.lt_of_succ_lt_succ hj)
        · exact h (j + 1) (Nat.succ_lt_succ hj)

/-- A pattern that stands somewhere in a text is found, there or before. -/
theorem exists_find?_of_prefix_drop {pattern t : Text} {o : Nat} (h : pattern <+: t.drop o)
    (ho : o ≤ t.length) : ∃ k ≤ o, find? pattern t = some k := by
  induction t generalizing o with
  | nil =>
    obtain rfl : pattern = [] := by simpa using h
    exact ⟨0, Nat.zero_le o, rfl⟩
  | cons c cs ih =>
    by_cases hp : pattern <+: c :: cs
    · exact ⟨0, Nat.zero_le o, find?_eq_some_iff.mpr ⟨Nat.zero_le _, hp, by simp⟩⟩
    · cases o with
      | zero => exact absurd h hp
      | succ o =>
        obtain ⟨k, hk, hfind⟩ := ih h (Nat.le_of_succ_le_succ ho)
        refine ⟨k + 1, Nat.succ_le_succ hk, ?_⟩
        unfold find?
        rw [if_neg (fun h => hp (List.isPrefixOf_iff_prefix.mp h)), hfind]
        rfl

end AttrFold.Text
