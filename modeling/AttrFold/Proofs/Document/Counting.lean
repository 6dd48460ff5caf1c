import AttrFold.Proofs.Document.Inverse

/-!
# Lines by counting

The table of line starts says what counting line feeds in the text says: an offset lies on the line
whose number is that of the line feeds before it (`lineOf_eq_count`), as far from the start of this
line as from the last of them (`startOf_eq_feedEnd`), and a line is what splitting the text at its
line feeds has in its place (`map_lineFrom_lineStarts`).

* **`lines_by_counting`** — positions, lines and the order of both conversions, without the table.
-/

namespace AttrFold

namespace Text

/-- The index just after the last line feed before an offset; zero when there is none. -/
def feedEnd (t : Text) : Nat → Nat
  | 0 => 0
  | k + 1 => if t[k]? = some '\n' then k + 1 else feedEnd t k

/-- As many lines start up to an offset as line feeds stand before it. -/
theorem countP_lineStartsAfter (t : Text) (s n : Nat) :
    (lineStartsAfter s t).countP (· ≤ s + n) = (t.take n).count '\n' := by
  induction t generalizing s n with
  | nil => rw [List.take_nil]; rfl
  | cons c cs ih =>
    cases n with
    | zero =>
      rw [List.take_zero, List.count_nil, List.countP_eq_zero]
      intro x hx
      obtain ⟨k, -, rfl⟩ := mem_lineStartsAfter_iff.mp hx
      rw [decide_eq_true_eq]
      omega
    | succ n =>
      have hrest := ih (s + 1) n
      rw [show s + 1 + n = s + (n + 1) by omega] at hrest
      rw [List.take_succ_cons, lineStartsAfter]
      by_cases hc : c = '\n'
      · rw [if_pos hc, hc, List.count_cons_self, List.countP_cons_of_pos (by simp), hrest]
      · rw [if_neg hc, List.count_cons_of_ne hc, hrest]

/-- Splitting goes on at the start of the next line with what is left of the text. -/
theorem map_lineStartsAfter (t : Text) {rest : Text} {s : Nat} (h : t.drop s = rest) :
    (s :: lineStartsAfter s rest).map (fun x => (t.drop x).takeWhile (· ≠ '\n'))
      = rest.splitOn '\n' := by
  rw [List.splitOn_eq_splitOnP]
  induction rest generalizing s with
  | nil => rw [List.splitOnP_nil, lineStartsAfter, List.map_singleton, h]; rfl
  | cons c cs ih =>
    have hnext : t.drop (s + 1) = cs := by
      rw [← List.tail_drop, h, List.tail_cons]
    have hcs := ih hnext
    rw [lineStartsAfter, List.splitOnP_cons_eq_if_modifyHead, ← hcs]
    by_cases hc : c = '\n'
    · rw [if_pos hc, if_pos (by simpa using hc), List.map_cons, h, hc]
      rfl
    · -- the line goes on behind the character
      rw [if_neg hc, if_neg (by simpa using hc), List.map_cons, List.map_cons, List.modifyHead_cons, h,
        hnext, List.takeWhile_cons_of_pos (by simpa using hc)]

end Text

namespace Document

/-- The line of an offset counts the line feeds before it. -/
theorem lineOf_eq_count (d : Document) (o : Nat) : d.lineOf o = (d.text.take o).count '\n' := by
  rw [← Text.countP_lineStartsAfter d.text 0 o, Nat.zero_add]
  rfl

/-- The line of an offset starts behind the last line feed before it. -/
theorem startOf_eq_feedEnd (d : Document) (o : Nat) : d.startOf o = d.text.feedEnd o := by
  induction o with
  | zero => exact Nat.le_zero.mp (d.startOf_le 0)
  | succ k ih =>
    have hle := d.startOf_le (k + 1)
    rw [Text.feedEnd]
    by_cases hfeed : d.text[k]? = some '\n'
    · have := le_startOf_of_mem (mem_lineStarts_succ hfeed) (Nat.le_refl (k + 1))
      rw [if_pos hfeed]
      omega
    · -- no line starts at the new offset, so its line is the one of the offset before
      have hbelow : d.startOf (k + 1) ≠ k + 1 := by
        intro heq
        rcases Text.mem_lineStarts_iff.mp (heq ▸ d.startOf_mem (k + 1)) with hzero | ⟨j, hj, hjk⟩
        · omega
        · rw [← Nat.succ.inj hjk] at hj
          exact hfeed hj
      have hstart := d.startOf_le k
      have hup := le_startOf_of_mem (d.startOf_mem k) (show d.startOf k ≤ k + 1 by omega)
      have hdown := le_startOf_of_mem (d.startOf_mem (k + 1)) (show d.startOf (k + 1) ≤ k by omega)
      rw [if_neg hfeed, ← ih]
      omega

/-- The lines of the table are the pieces between the line feeds. -/
theorem map_lineFrom_lineStarts (d : Document) : d.lineStarts.map d.lineFrom = d.text.splitOn '\n' :=
  Text.map_lineStartsAfter d.text List.drop_zero

/-- A line is the piece between two line feeds, without the returns at its end. -/
theorem exists_piece_of_lineAt? (d : Document) {i : Nat} (hi : i ≤ d.text.count '\n') :
    ∃ piece, (d.text.splitOn '\n')[i]? = some piece
      ∧ d.lineAt? i = some (Text.dropEndWhile (· = '\r') piece) := by
  have hlt : i < d.lineStarts.length := by
    have := d.text.length_lineStarts
    unfold lineStarts
    omega
  have hx := List.getElem?_eq_getElem hlt
  refine ⟨d.lineFrom d.lineStarts[i], ?_, lineAt?_eq hx⟩
  rw [← map_lineFrom_lineStarts, List.getElem?_map, hx, Option.map_some]

/-- **The table of line starts agrees with counting line feeds.** Every integer offset counts as the
nearest offset of the document and has the position that counting gives; positions keep and reflect
the order of offsets; each line is the piece of the text in its place without the carriage returns
at its end; and any two positions in order, inside the document or not, have offsets of the document
in order. -/
theorem lines_by_counting (d : Document) :
    (∀ o : Int,
      let c := (max 0 (min o d.text.length)).toNat
      d.positionAt o = ⟨((d.text.take c).count '\n' : Nat), (c : Int) - d.text.feedEnd c⟩) ∧
    (∀ a b : Nat, a ≤ d.text.length → b ≤ d.text.length →
      (a < b ↔ d.positionAt a < d.positionAt b)) ∧
    (∀ i : Nat, i ≤ d.text.count '\n' →
      ∃ piece, (d.text.splitOn '\n')[i]? = some piece
        ∧ d.lineAt? i = some (Text.dropEndWhile (· = '\r') piece)) ∧
    ∀ p q : Position, p ≤ q →
      0 ≤ d.offsetAt p ∧ d.offsetAt p ≤ d.offsetAt q ∧ d.offsetAt q ≤ d.text.length := by
  refine ⟨fun o => ?_, fun a b ha hb => ?_, fun i hi => d.exists_piece_of_lineAt? hi, fun p q h => ?_⟩
  · intro c
    have hclamp : d.clamp o = c := by
      unfold clamp
      omega
    have hstart := d.startOf_le c
    have hline : d.positionAt o = ⟨d.lineOf c, (c - d.startOf c : Nat)⟩ := by
      unfold positionAt
      rw [hclamp]
      rfl
    rw [hline, lineOf_eq_count, Int.ofNat_sub hstart, startOf_eq_feedEnd]
  · rw [← Position.not_le, positionAt_le_iff hb, Nat.not_le]
  · exact ⟨Nat.zero_le _, offsetAt_mono h, d.offsetAt_le_length q⟩

/-- Carriage returns before a line feed, an empty line, and coordinates outside the document. -/
theorem lines_by_counting_two_returns :
    let d : Document := ⟨"a\r\r\n\nb", "html"⟩
    let p : Position := ⟨0, 9⟩
    let q : Position := ⟨1, -2⟩
    d.positionAt 9 = ⟨2, 1⟩ ∧ d.positionAt (3 : Nat) < d.positionAt (4 : Nat) ∧
      d.lineAt? (0 : Nat) = some "a" ∧
      p ≤ q ∧ d.offsetAt p ≤ d.offsetAt q := by
  intro d p q
  obtain ⟨hposition, horder, hlines, hback⟩ := lines_by_counting d
  have hpq : p ≤ q := by decide
  refine ⟨hposition 9, (horder 3 4 (by decide) (by decide)).mp (by decide), ?_, hpq,
    (hback p q hpq).2.1⟩
  obtain ⟨piece, hpiece, hline⟩ := hlines 0 (by decide)
  obtain rfl : "a\r\r".toList = piece := Option.some.inj hpiece
  exact hline

end Document

end AttrFold
