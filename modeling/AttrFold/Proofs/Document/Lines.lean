import AttrFold.Document.Basic

/-!
# The lines of a document

The table of line starts is strictly increasing, so the number of the line of an offset is the place of
the last start that is not after it. From this: positions keep the strict order of offsets
(`positionAt_lt`), and between the start of the line of an offset and the offset there is no line feed
(`ne_lineFeed_of_startOf_le`).
-/

namespace AttrFold

/-! ## The table of line starts -/

namespace Text

/-- Lines start behind line feeds. -/
theorem mem_lineStartsAfter_iff {t : Text} {s x : Nat} :
    x ∈ lineStartsAfter s t ↔ ∃ k, t[k]? = some '\n' ∧ x = s + k + 1 := by
  induction t generalizing s with
  | nil => simp [lineStartsAfter]
  | cons c cs ih =>
    have hshift : (∃ k, (c :: cs)[k]? = some '\n' ∧ x = s + k + 1) ↔
        c = '\n' ∧ x = s + 1 ∨ ∃ k, cs[k]? = some '\n' ∧ x = s + 1 + k + 1 := by
      refine ⟨fun h => ?_, fun h => ?_⟩
      · obtain ⟨k, hk, rfl⟩ := h
        cases k with
        | zero => exact .inl ⟨Option.some.inj hk, rfl⟩
        | succ k => exact .inr ⟨k, hk, by omega⟩
      · rcases h with ⟨rfl, rfl⟩ | ⟨k, hk, rfl⟩
        · exact ⟨0, rfl, rfl⟩
        · exact ⟨k + 1, hk, by omega⟩
    rw [hshift]
    unfold lineStartsAfter
    split
    · next hc => simp [hc, ih]
    · next hc => simp [hc, ih]

/-- The starts that line feeds make are in order. -/
theorem pairwise_lineStartsAfter (t : Text) (s : Nat) :
    (lineStartsAfter s t).Pairwise (· < ·) := by
  induction t generalizing s with
  | nil => exact .nil
  | cons c cs ih =>
    unfold lineStartsAfter
    split
    · refine .cons (fun x hx => ?_) (ih (s + 1))
      obtain ⟨k, -, rfl⟩ := mem_lineStartsAfter_iff.mp hx
      omega
    · exact ih (s + 1)

/-- A line starts at the start of the text and behind each line feed. -/
theorem mem_lineStarts_iff {t : Text} {x : Nat} :
    x ∈ t.lineStarts ↔ x = 0 ∨ ∃ k, t[k]? = some '\n' ∧ x = k + 1 := by
  unfold lineStarts
  rw [List.mem_cons, mem_lineStartsAfter_iff]
  simp

/-- In an increasing list the entries up to a bound are those below their number. -/
theorem getElem?_le_iff_lt_countP {l : List Nat} (h : l.Pairwise (· < ·)) {i x o : Nat}
    (hx : l[i]? = some x) : x ≤ o ↔ i < l.countP (· ≤ o) := by
  induction l generalizing i with
  | nil => cases hx
  | cons a l ih =>
    have hmono := List.pairwise_cons.mp h
    -- the list is in order: once an element is too large, all that follow are
    have hzero : ¬a ≤ o → l.countP (· ≤ o) = 0 := by
      intro ha
      refine List.countP_eq_zero.mpr fun b hb => ?_
      have := hmono.1 b hb
      simp only [decide_eq_true_eq]
      omega
    rw [List.countP_cons]
    cases i with
    | zero =>
      obtain rfl : a = x := Option.some.inj hx
      by_cases ha : a ≤ o
      · simp [ha]
      · simp [ha, hzero ha]
    | succ i =>
      have hlt := hmono.1 x (List.mem_of_getElem? hx)
      by_cases ha : a ≤ o
      · have := ih hmono.2 hx
        simp only [ha, decide_true, if_true]
        omega
      · have := hzero ha
        simp only [ha, decide_false, Bool.false_eq_true, if_false]
        omega

/-- A text has a line more than it has line feeds. -/
theorem length_lineStarts (t : Text) : t.lineStarts.length = t.count '\n' + 1 := by
  have hafter (s : Nat) : (lineStartsAfter s t).length = t.count '\n' := by
    induction t generalizing s with
    | nil => rfl
    | cons c cs ih =>
      unfold lineStartsAfter
      by_cases hc : c = '\n'
      · rw [if_pos hc, List.length_cons, ih, hc, List.count_cons_self]
      · rw [if_neg hc, ih, List.count_cons_of_ne hc]
  unfold lineStarts
  rw [List.length_cons, hafter]

end Text

namespace Document

variable {d : Document} {o : Nat}

/-! ## The line of an offset

The table counts the starts after the first one, so the line of an offset is the index of the last start
that is not after it (`le_iff_le_lineOf`). -/

/-- The offset at which the line of an offset starts. -/
def startOf (d : Document) (o : Nat) : Nat := d.lineStarts.getD (d.lineOf o) 0

/-- Every offset is on a line of the document. -/
theorem lineOf_lt_length (d : Document) (o : Nat) : d.lineOf o < d.lineStarts.length := by
  have := List.countP_le_length (p := fun x => decide (x ≤ o)) (l := d.lineStarts.tail)
  unfold lineOf lineStarts Text.lineStarts at *
  simp only [List.tail_cons, List.length_cons] at *
  omega

/-- The line of an offset starts where the list of starts says. -/
theorem getElem?_lineOf (d : Document) (o : Nat) : d.lineStarts[d.lineOf o]? = some (d.startOf o) := by
  unfold startOf
  rw [List.getElem?_eq_getElem (d.lineOf_lt_length o), List.getD_eq_getElem?_getD,
    List.getElem?_eq_getElem (d.lineOf_lt_length o), Option.getD_some]

/-- The line of an offset starts at one of the starts. -/
theorem startOf_mem (d : Document) (o : Nat) : d.startOf o ∈ d.lineStarts :=
  List.mem_of_getElem? (d.getElem?_lineOf o)

/-- The start of a line is not after an offset just in case the line is that of the offset or an
earlier one. -/
theorem le_iff_le_lineOf {i x : Nat} (hx : d.lineStarts[i]? = some x) : x ≤ o ↔ i ≤ d.lineOf o := by
  unfold lineStarts Text.lineStarts at hx
  unfold lineOf lineStarts Text.lineStarts
  cases i with
  | zero =>
    obtain rfl : 0 = x := Option.some.inj hx
    simp
  | succ i =>
    have := Text.getElem?_le_iff_lt_countP (o := o) (Text.pairwise_lineStartsAfter d.text 0) hx
    rw [this, List.tail_cons]
    omega

theorem startOf_le (d : Document) (o : Nat) : d.startOf o ≤ o :=
  (le_iff_le_lineOf (d.getElem?_lineOf o)).mpr (Nat.le_refl _)

theorem pairwise_lineStarts (d : Document) : d.lineStarts.Pairwise (· < ·) := by
  refine .cons (fun x hx => ?_) (Text.pairwise_lineStartsAfter d.text 0)
  obtain ⟨k, -, rfl⟩ := Text.mem_lineStartsAfter_iff.mp hx
  omega

/-- A later line starts later. -/
theorem lt_of_getElem?_lineStarts {i j x y : Nat} (hx : d.lineStarts[i]? = some x)
    (hy : d.lineStarts[j]? = some y) (hij : i < j) : x < y := by
  obtain ⟨hi, rfl⟩ := List.getElem?_eq_some_iff.mp hx
  obtain ⟨hj, rfl⟩ := List.getElem?_eq_some_iff.mp hy
  exact List.pairwise_iff_getElem.mp d.pairwise_lineStarts i j hi hj hij

/-- Lines are numbered in the order of their starts. -/
theorem lt_iff_lt_of_getElem?_lineStarts {i j x y : Nat} (hx : d.lineStarts[i]? = some x)
    (hy : d.lineStarts[j]? = some y) : x < y ↔ i < j := by
  refine ⟨fun hlt => Nat.lt_of_not_le fun hle => ?_, lt_of_getElem?_lineStarts hx hy⟩
  rcases Nat.lt_or_eq_of_le hle with hji | rfl
  · have := lt_of_getElem?_lineStarts hy hx hji
    omega
  · obtain rfl : x = y := Option.some.inj (hx.symm.trans hy)
    omega

/-- The line of an offset starts last of all that do not start after it. -/
theorem le_startOf_of_mem {x : Nat} (hx : x ∈ d.lineStarts) (hle : x ≤ o) : x ≤ d.startOf o := by
  obtain ⟨i, hi⟩ := List.getElem?_of_mem hx
  have hline := (le_iff_le_lineOf hi).mp hle
  refine Nat.le_of_not_lt fun hlt => ?_
  have := (lt_iff_lt_of_getElem?_lineStarts (d.getElem?_lineOf o) hi).mp hlt
  omega

/-! ## What stands between two starts -/

/-- After the start of a line the next one in the table is the next one at all. -/
theorem exists_next_of_mem {i x y : Nat} (hx : d.lineStarts[i]? = some x) (hy : y ∈ d.lineStarts)
    (hlt : x < y) : ∃ next, d.lineStarts[i + 1]? = some next ∧ next ≤ y := by
  obtain ⟨j, hj⟩ := List.getElem?_of_mem hy
  have hij := (lt_iff_lt_of_getElem?_lineStarts hx hj).mp hlt
  have hjlen := (List.getElem?_eq_some_iff.mp hj).1
  have hnext := List.getElem?_eq_getElem (show i + 1 < d.lineStarts.length by omega)
  refine ⟨_, hnext, Nat.le_of_not_lt fun hbelow => ?_⟩
  have := (lt_iff_lt_of_getElem?_lineStarts hj hnext).mp hbelow
  omega

theorem le_length_of_mem_lineStarts {x : Nat} (hx : x ∈ d.lineStarts) : x ≤ d.text.length := by
  rcases Text.mem_lineStarts_iff.mp hx with rfl | ⟨k, hk, rfl⟩
  · exact Nat.zero_le _
  · exact (List.getElem?_eq_some_iff.mp hk).1

theorem mem_lineStarts_succ {k : Nat} (hk : d.text[k]? = some '\n') : k + 1 ∈ d.lineStarts :=
  Text.mem_lineStarts_iff.mpr (.inr ⟨k, hk, rfl⟩)

/-- Between an offset and the start of its line there is no line feed. -/
theorem ne_lineFeed_of_startOf_le {j : Nat} (hstart : d.startOf o ≤ j) (hj : j < o) :
    d.text[j]? ≠ some '\n' := by
  intro hfeed
  have := le_startOf_of_mem (mem_lineStarts_succ hfeed) hj
  omega

/-! ## Positions keep the order of offsets -/

/-- The position of an offset within the text is its line, and how far it is from the start of the
line. -/
theorem positionAt_natCast (ho : o ≤ d.text.length) :
    d.positionAt o = ⟨d.lineOf o, (o - d.startOf o : Nat)⟩ := by
  have hclamp : d.clamp o = o := by
    unfold clamp
    omega
  unfold positionAt
  rw [hclamp]
  rfl

/-- A later offset has a later position. -/
theorem positionAt_lt {a b : Nat} (h : a < b) (hb : b ≤ d.text.length) :
    d.positionAt a < d.positionAt b := by
  rw [positionAt_natCast (Nat.le_trans (Nat.le_of_lt h) hb), positionAt_natCast hb, Position.lt_def]
  rcases Nat.lt_or_eq_of_le (d.lineOf_le (Nat.le_of_lt h)) with hline | hline
  · exact .inl (Int.ofNat_lt.mpr hline)
  · have hstart : d.startOf a = d.startOf b := by
      unfold startOf
      rw [hline]
    have := d.startOf_le a
    refine .inr ⟨congrArg Int.ofNat hline, ?_⟩
    simp only [hstart] at this ⊢
    omega

/-- Positions are in the order of their offsets. -/
theorem positionAt_le_iff {a b : Nat} (ha : a ≤ d.text.length) :
    d.positionAt a ≤ d.positionAt b ↔ a ≤ b := by
  refine ⟨fun h => Nat.le_of_not_lt fun hlt => ?_, fun h => d.positionAt_le (by omega)⟩
  exact absurd h (Position.not_le.mpr (positionAt_lt hlt ha))

end Document

end AttrFold
