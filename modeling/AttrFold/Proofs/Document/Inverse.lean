import AttrFold.Proofs.Document.Lines
import AttrFold.Proofs.Text.Search
import AttrFold.Proofs.Text.Trim

/-!
# From offsets to positions and back

The content of a line is what stands between its start and the next line feed, without the carriage
returns at its end (`lineAt?_eq`). The way back from a position stops at the end of the content of
its line, so an offset comes back unless it lies behind the first of these carriage returns
(`InsideReturns`); a position comes back whenever it lies in the content of its line
(`offsetAt_inverts_positionAt`). Both ways keep the order, the way back even that of positions
outside the document (`offsetAt_mono`).

## The crux

The two ways have different notions of a line. The line of an offset is found in the table of
starts, and goes up to the next start; the content that stops the way back is a slice of the text
that is then cut at its end. `lineFrom` is what both are measured with: the text from a start up to
the next line feed. It is made of the part before an offset and the part after it
(`lineFrom_eq_append`), and the cut reaches the first of these only when all of the second one is
cut off.
-/

namespace AttrFold.Document

variable {d : Document} {o : Nat}

/-! ## The text of a line -/

/-- The text from an offset up to the next line feed or the end of the document. -/
def lineFrom (d : Document) (start : Nat) : Text := (d.text.drop start).takeWhile (· ≠ '\n')

/-- The content of the line that starts at an offset. -/
def contentFrom (d : Document) (start : Nat) : Text := (d.lineFrom start).dropEndWhile (· = '\r')

/-- Without a line feed in between, the line from one offset goes on as the line from a later one. -/
theorem lineFrom_eq_append {x : Nat} (hx : x ≤ o)
    (hnone : ∀ j, x ≤ j → j < o → d.text[j]? ≠ some '\n') :
    d.lineFrom x = d.text.slice x o ++ d.lineFrom o := by
  have hslice : ∀ c ∈ d.text.slice x o, decide (c ≠ '\n') = true := by
    intro c hc
    obtain ⟨j, hxj, hj, hat⟩ := Text.exists_getElem?_of_mem_slice hc
    rw [decide_eq_true_eq]
    rintro rfl
    exact hnone j hxj hj hat
  unfold lineFrom
  rw [← Text.slice_append_drop hx, List.takeWhile_append_of_pos hslice]

/-- Nothing is left of a line at its line feed. -/
theorem lineFrom_eq_nil {k : Nat} (hk : d.text[k]? = some '\n') : d.lineFrom k = [] := by
  obtain ⟨hlt, heq⟩ := List.getElem?_eq_some_iff.mp hk
  unfold lineFrom
  rw [List.drop_eq_getElem_cons hlt, heq]
  rfl

/-- Nothing is left of a line at the end of the text. -/
theorem lineFrom_length (d : Document) : d.lineFrom d.text.length = [] := by
  unfold lineFrom
  rw [List.drop_length]
  rfl

/-- A line that has a number starts where the list of starts says. -/
theorem lineStart?_natCast (d : Document) (i : Nat) : d.lineStart? i = d.lineStarts[i]? := by
  unfold lineStart?
  rw [if_pos (Int.natCast_nonneg i), Int.toNat_natCast]

/-- Up to the next start a line holds its text and a line feed. -/
theorem slice_to_next {i x y : Nat} (hx : d.lineStarts[i]? = some x)
    (hy : d.lineStarts[i + 1]? = some y) : d.text.slice x y = d.lineFrom x ++ ['\n'] := by
  have hlt := lt_of_getElem?_lineStarts hx hy (Nat.lt_succ_self i)
  rcases Text.mem_lineStarts_iff.mp (List.mem_of_getElem? hy) with hzero | ⟨k, hk, rfl⟩
  · omega
  · -- a line feed before the one at `k` would have a start behind it, before the next one
    have hnone : ∀ j, x ≤ j → j < k → d.text[j]? ≠ some '\n' := by
      intro j hxj hjk hfeed
      obtain ⟨next, hnext, hle⟩ := exists_next_of_mem hx (mem_lineStarts_succ hfeed) (by omega)
      obtain rfl : k + 1 = next := Option.some.inj (hy.symm.trans hnext)
      omega
    rw [Text.slice_succ (by omega) hk, lineFrom_eq_append (by omega) hnone, lineFrom_eq_nil hk,
      List.append_nil]

/-- Behind the last start there is no line feed. -/
theorem slice_to_end {i x : Nat} (hx : d.lineStarts[i]? = some x)
    (hlast : d.lineStarts[i + 1]? = none) : d.text.slice x d.text.length = d.lineFrom x := by
  have hxlen := le_length_of_mem_lineStarts (List.mem_of_getElem? hx)
  have hnone : ∀ j, x ≤ j → j < d.text.length → d.text[j]? ≠ some '\n' := by
    intro j hxj _ hfeed
    obtain ⟨next, hnext, -⟩ := exists_next_of_mem hx (mem_lineStarts_succ hfeed) (by omega)
    rw [hlast] at hnext
    cases hnext
  rw [lineFrom_eq_append hxlen hnone, lineFrom_length, List.append_nil]

/-- What is left of a line has no line feed. -/
theorem ne_lineFeed_of_mem_lineFrom {x : Nat} {c : Char} (hc : c ∈ d.lineFrom x) : c ≠ '\n' := by
  simpa using List.mem_takeWhile_imp (p := fun c => decide (c ≠ '\n')) hc

/-- **The content of a line is its text without the carriage returns at its end.** -/
theorem lineAt?_eq {i x : Nat} (hx : d.lineStarts[i]? = some x) :
    d.lineAt? i = some (d.contentFrom x) := by
  have hcontent : (d.lineFrom x).dropEndWhile (fun c => c = '\n' || c = '\r') = d.contentFrom x :=
    Text.dropEndWhile_congr fun c hc => by simp [ne_lineFeed_of_mem_lineFrom hc]
  unfold lineAt?
  rw [lineStart?_natCast, hx, Option.map_some, show ((i : Int) + 1) = ((i + 1 : Nat) : Int) from rfl,
    lineStart?_natCast]
  cases hnext : d.lineStarts[i + 1]? with
  | some y =>
    have hlt := (List.getElem?_eq_some_iff.mp hnext).1
    have hfeed : ∀ c ∈ ['\n'], (decide (c = '\n') || decide (c = '\r')) = true := by simp
    rw [if_pos (by omega), Option.getD_some]
    show some ((d.text.slice x y).dropEndWhile fun c => c = '\n' || c = '\r') = _
    rw [slice_to_next hx hnext, Text.dropEndWhile_append hfeed, hcontent]
  | none =>
    have hle := List.getElem?_eq_none_iff.mp hnext
    rw [if_neg (by omega)]
    show some ((d.text.slice x d.text.length).dropEndWhile fun c => c = '\n' || c = '\r') = _
    rw [slice_to_end hx hnext, hcontent]

/-! ## From an offset to its position and back -/

/-- On a line of the document a column counts from its start, and at most up to the end of its
content. -/
theorem offsetAt_of_line {i x : Nat} (hx : d.lineStarts[i]? = some x) (character : Int) :
    d.offsetAt ⟨i, character⟩ = x + min character.toNat (d.contentFrom x).length := by
  unfold offsetAt
  simp only [Int.toNat_natCast, hx, lineAt?_eq hx, Option.getD_some]
  rw [if_neg (by omega)]

theorem offsetAt_of_no_line {i : Nat} (hi : d.lineStarts[i]? = none) (character : Int) :
    d.offsetAt ⟨i, character⟩ = d.text.length := by
  unfold offsetAt
  simp only [Int.toNat_natCast, hi]
  rw [if_neg (by omega)]

theorem offsetAt_of_neg {p : Position} (h : p.line < 0) : d.offsetAt p = 0 := if_pos h

/-- An offset comes back from its position up to the end of its line's content. -/
theorem offsetAt_positionAt (ho : o ≤ d.text.length) :
    d.offsetAt (d.positionAt o)
      = min o (d.startOf o + (d.contentFrom (d.startOf o)).length) := by
  have hle := d.startOf_le o
  rw [positionAt_natCast ho, offsetAt_of_line (d.getElem?_lineOf o), Int.toNat_natCast]
  omega

/-- Whether an offset stands behind a carriage return and all that follows on its line are carriage
returns too. -/
def InsideReturns (d : Document) (o : Nat) : Prop :=
  (0 < o ∧ d.text[o - 1]? = some '\r') ∧ ∀ c ∈ d.lineFrom o, c = '\r'

/-- The part of a line before an offset ends with a carriage return exactly if one stands there: the
line does not start behind it. -/
theorem getLast?_slice_iff (ho : o ≤ d.text.length) :
    (∃ c, (d.text.slice (d.startOf o) o).getLast? = some c ∧ decide (c = '\r') = true)
      ↔ 0 < o ∧ d.text[o - 1]? = some '\r' := by
  have hlen := Text.length_slice (d.startOf o) ho
  rcases Nat.lt_or_eq_of_le (d.startOf_le o) with hlt | heq
  · rw [List.getLast?_eq_getElem?, hlen, Text.getElem?_slice (by omega),
      show d.startOf o + (o - d.startOf o - 1) = o - 1 by omega]
    simp only [decide_eq_true_eq, exists_eq_right]
    exact ⟨fun h => ⟨by omega, h⟩, fun h => h.2⟩
  · -- an offset at the start of its line follows a line feed, or nothing
    rw [heq, Nat.sub_self, List.length_eq_zero_iff] at hlen
    rw [heq, hlen]
    have hmem := d.startOf_mem o
    rw [heq] at hmem
    refine ⟨fun h => ?_, fun h => ?_⟩
    · obtain ⟨c, hc, -⟩ := h
      cases hc
    obtain ⟨hpos, hreturn⟩ := h
    rcases Text.mem_lineStarts_iff.mp hmem with hzero | ⟨k, hk, rfl⟩
    · omega
    · rw [Nat.add_sub_cancel, hk] at hreturn
      cases hreturn

/-- **An offset is lost exactly inside the carriage returns at the end of a line.** -/
theorem offsetAt_positionAt_lt_iff (ho : o ≤ d.text.length) :
    d.offsetAt (d.positionAt o) < o ↔ d.InsideReturns o := by
  have hline : d.lineFrom (d.startOf o) = d.text.slice (d.startOf o) o ++ d.lineFrom o :=
    lineFrom_eq_append (d.startOf_le o) fun j hstart hj => ne_lineFeed_of_startOf_le hstart hj
  have hlen := Text.length_slice (d.startOf o) ho
  have hcut := Text.length_dropEndWhile_append_lt_iff (p := fun c => c = '\r')
    (s := d.text.slice (d.startOf o) o) (r := d.lineFrom o)
  rw [← hline, hlen, getLast?_slice_iff ho] at hcut
  have hle := d.startOf_le o
  rw [offsetAt_positionAt ho]
  unfold InsideReturns contentFrom
  simp only [decide_eq_true_eq] at hcut
  rw [← hcut]
  omega

/-- Going to a position and back never moves an offset forward. -/
theorem offsetAt_positionAt_le (ho : o ≤ d.text.length) : d.offsetAt (d.positionAt o) ≤ o := by
  rw [offsetAt_positionAt ho]
  omega

/-- Outside of the returns that end a line, going to a position and back leaves an offset where it
is. -/
theorem offsetAt_positionAt_eq (ho : o ≤ d.text.length) (hinside : ¬d.InsideReturns o) :
    d.offsetAt (d.positionAt o) = o := by
  have hle := offsetAt_positionAt_le ho
  rw [← offsetAt_positionAt_lt_iff ho] at hinside
  omega

/-- An offset at a character that ends no line comes back. -/
theorem offsetAt_positionAt_of_getElem {c : Char} (hc : d.text[o]? = some c)
    (hend : c ≠ '\n' ∧ c ≠ '\r') : d.offsetAt (d.positionAt o) = o := by
  obtain ⟨hlt, rfl⟩ := List.getElem?_eq_some_iff.mp hc
  refine offsetAt_positionAt_eq (Nat.le_of_lt hlt) fun hinside => hend.2 (hinside.2 _ ?_)
  unfold lineFrom
  rw [List.drop_eq_getElem_cons hlt, List.takeWhile_cons_of_pos (by simp [hend.1])]
  exact List.mem_cons_self

/-- An offset just after a character that ends no line comes back. -/
theorem offsetAt_positionAt_succ_of_getElem {c : Char} (hc : d.text[o]? = some c)
    (hend : c ≠ '\r') : d.offsetAt (d.positionAt (o + 1 : Nat)) = o + 1 := by
  have ho : o + 1 ≤ d.text.length := (List.getElem?_eq_some_iff.mp hc).1
  refine offsetAt_positionAt_eq ho fun hinside => hend ?_
  exact Option.some.inj (hc.symm.trans hinside.1.2)

/-- Without carriage returns every offset comes back. -/
theorem offsetAt_positionAt_of_not_mem (hcr : '\r' ∉ d.text) (ho : o ≤ d.text.length) :
    d.offsetAt (d.positionAt o) = o :=
  offsetAt_positionAt_eq ho fun hinside => hcr (List.mem_of_getElem? hinside.1.2)

/-! ## From a position to its offset and back -/

/-- An offset in the text of a line lies on that line. -/
theorem lineOf_add {i x k : Nat} (hx : d.lineStarts[i]? = some x) (hk : k ≤ (d.lineFrom x).length) :
    d.lineOf (x + k) = i := by
  have hlow : i ≤ d.lineOf (x + k) := (le_iff_le_lineOf hx).mp (Nat.le_add_right x k)
  refine Nat.le_antisymm (Nat.le_of_not_lt fun hlt => ?_) hlow
  -- a later line would start just after a line feed in the text of this one
  have hnext := d.getElem?_lineOf (x + k)
  have hle := d.startOf_le (x + k)
  have hafter := lt_of_getElem?_lineStarts hx hnext hlt
  rcases Text.mem_lineStarts_iff.mp (List.mem_of_getElem? hnext) with hzero | ⟨m, hm, hstart⟩
  · omega
  · have hprefix : d.lineFrom x <+: d.text.drop x := List.takeWhile_prefix _
    have hat : (d.lineFrom x)[m - x]? = some '\n' := by
      rw [List.prefix_iff_eq_take.mp hprefix, List.getElem?_take_of_lt (by omega),
        List.getElem?_drop, Nat.add_sub_cancel' (by omega), hm]
    exact ne_lineFeed_of_mem_lineFrom (List.mem_of_getElem? hat) rfl

theorem length_contentFrom_le (d : Document) (x : Nat) :
    (d.contentFrom x).length ≤ (d.lineFrom x).length :=
  Text.length_dropEndWhile_le _ _

/-- The content of a line ends within the text. -/
theorem add_length_contentFrom_le {i x : Nat} (hx : d.lineStarts[i]? = some x) :
    x + (d.contentFrom x).length ≤ d.text.length := by
  have hcontent := d.length_contentFrom_le x
  have hline : (d.lineFrom x).length ≤ (d.text.drop x).length := (List.takeWhile_prefix _).length_le
  have hxlen := le_length_of_mem_lineStarts (List.mem_of_getElem? hx)
  rw [List.length_drop] at hline
  omega

/-- **A position in the content of its line comes back.** -/
theorem positionAt_offsetAt {i x k : Nat} (hx : d.lineStarts[i]? = some x)
    (hk : k ≤ (d.contentFrom x).length) : d.positionAt (d.offsetAt ⟨i, k⟩) = ⟨i, k⟩ := by
  have hcontent := d.length_contentFrom_le x
  have hlen := add_length_contentFrom_le hx
  have hlineOf : d.lineOf (x + k) = i := lineOf_add hx (by omega)
  have hstart : d.startOf (x + k) = x := by
    have hat := d.getElem?_lineOf (x + k)
    rw [hlineOf, hx] at hat
    exact (Option.some.inj hat).symm
  rw [offsetAt_of_line hx, Int.toNat_natCast, Nat.min_eq_left hk, positionAt_natCast (by omega),
    hlineOf, hstart, Nat.add_sub_cancel_left]

/-! ## The way back keeps the order of positions

Also outside the document: a position before it counts as its start, one after it as its end, and
one behind the content of a line stays before the next line. -/

/-- The content of a line ends before a later line starts. -/
theorem add_length_contentFrom_lt {i j x y : Nat} (hx : d.lineStarts[i]? = some x)
    (hy : d.lineStarts[j]? = some y) (hij : i < j) : x + (d.contentFrom x).length < y := by
  have hcontent := d.length_contentFrom_le x
  have hlt := lt_of_getElem?_lineStarts hx hy hij
  obtain ⟨next, hnext, hle⟩ := exists_next_of_mem hx (List.mem_of_getElem? hy) hlt
  -- up to the next start there is the text of the line and a line feed
  have hnextlen := le_length_of_mem_lineStarts (List.mem_of_getElem? hnext)
  have hlen := congrArg List.length (slice_to_next hx hnext)
  rw [Text.length_slice x hnextlen, List.length_append, List.length_singleton] at hlen
  omega

/-- No position is beyond the end of the text. -/
theorem offsetAt_le_length (d : Document) (p : Position) : d.offsetAt p ≤ d.text.length := by
  obtain ⟨line, character⟩ := p
  by_cases hneg : line < 0
  · rw [offsetAt_of_neg hneg]
    exact Nat.zero_le _
  · obtain ⟨i, rfl⟩ := Int.eq_ofNat_of_zero_le (Int.not_lt.mp hneg)
    cases hi : d.lineStarts[i]? with
    | none => rw [offsetAt_of_no_line hi]
    | some x =>
      have := add_length_contentFrom_le hi
      rw [offsetAt_of_line hi]
      omega

/-- **The way back keeps the order of all positions.** -/
theorem offsetAt_mono {p q : Position} (h : p ≤ q) : d.offsetAt p ≤ d.offsetAt q := by
  obtain ⟨line, character⟩ := p
  obtain ⟨line', character'⟩ := q
  rw [Position.le_def] at h
  simp only at h
  by_cases hneg : line < 0
  · rw [offsetAt_of_neg hneg]
    exact Nat.zero_le _
  obtain ⟨i, rfl⟩ := Int.eq_ofNat_of_zero_le (Int.not_lt.mp hneg)
  obtain ⟨j, rfl⟩ := Int.eq_ofNat_of_zero_le (show 0 ≤ line' by omega)
  cases hj : d.lineStarts[j]? with
  | none =>
    rw [offsetAt_of_no_line hj]
    exact d.offsetAt_le_length _
  | some y =>
    -- a line at or before one of the document is one of the document
    have hjlen := (List.getElem?_eq_some_iff.mp hj).1
    have hi := List.getElem?_eq_getElem (show i < d.lineStarts.length by omega)
    rw [offsetAt_of_line hi, offsetAt_of_line hj]
    rcases h with hline | ⟨hline, hcharacter⟩
    · have := add_length_contentFrom_lt hi hj (by omega)
      omega
    · obtain rfl : i = j := by omega
      obtain rfl : d.lineStarts[i] = y := Option.some.inj (hi.symm.trans hj)
      omega

/-- **Offsets and positions are inverse to each other but for the carriage returns that end a
line.** An offset never comes back greater; it comes back as it is unless it stands behind a
carriage return with nothing but such after it on its line, and then it comes back smaller. A
position comes back whenever its line is one of the document and its character in the content of
that line. -/
theorem offsetAt_inverts_positionAt (d : Document) :
    (∀ o ≤ d.text.length, d.offsetAt (d.positionAt o) ≤ o
      ∧ (¬d.InsideReturns o → d.offsetAt (d.positionAt o) = o)
      ∧ (d.InsideReturns o → d.offsetAt (d.positionAt o) < o))
    ∧ ∀ p : Position, 0 ≤ p.line → p.line ≤ d.text.count '\n' →
      ∃ content, d.lineAt? p.line = some content
        ∧ (0 ≤ p.character → p.character ≤ content.length → d.positionAt (d.offsetAt p) = p) := by
  refine ⟨fun o ho => ?_, fun p hline hlast => ?_⟩
  · exact ⟨offsetAt_positionAt_le ho, offsetAt_positionAt_eq ho, (offsetAt_positionAt_lt_iff ho).mpr⟩
  · obtain ⟨line, character⟩ := p
    simp only at hline hlast ⊢
    obtain ⟨i, rfl⟩ := Int.eq_ofNat_of_zero_le hline
    have hi : i < d.lineStarts.length := by
      have := d.text.length_lineStarts
      unfold lineStarts
      omega
    have hx := List.getElem?_eq_getElem hi
    refine ⟨_, lineAt?_eq hx, fun hcharacter hcontent => ?_⟩
    obtain ⟨k, rfl⟩ := Int.eq_ofNat_of_zero_le hcharacter
    exact positionAt_offsetAt hx (Int.ofNat_le.mp hcontent)

/-- Between two returns at the end of a line an offset is moved back; the end of the line below
stays where it is. -/
theorem offsetAt_inverts_positionAt_two_returns :
    (⟨"a\r\r\nb", "html"⟩ : Document).offsetAt
        ((⟨"a\r\r\nb", "html"⟩ : Document).positionAt (2 : Nat)) < 2
      ∧ (⟨"a\r\r\nb", "html"⟩ : Document).positionAt
          ((⟨"a\r\r\nb", "html"⟩ : Document).offsetAt ⟨1, 1⟩) = ⟨1, 1⟩ := by
  obtain ⟨hoffsets, hpositions⟩ := offsetAt_inverts_positionAt ⟨"a\r\r\nb", "html"⟩
  refine ⟨(hoffsets 2 (by decide)).2.2 ⟨by decide, fun c hc => List.mem_singleton.mp hc⟩, ?_⟩
  obtain ⟨content, hcontent, hback⟩ := hpositions ⟨1, 1⟩ (by decide) (by decide)
  obtain rfl : ['b'] = content := Option.some.inj hcontent
  exact hback (by decide) (by decide)

end AttrFold.Document
