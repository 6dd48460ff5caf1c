import Mathlib.Data.List.Basic
import AttrFold.Proofs.Drawing
import AttrFold.Proofs.Session

/-!
# The drawing of a view

Marks that are apart from one another (`Apart`) are all drawn: no mark is passed over, and putting the
folded stretches back in the place of their placeholders gives the text again
(`replaceFrom_piecesFrom`). The marks of a scan are those of its folded and faded spans, in the order of
the document (`marks_eq_map`), so they are apart.

## The architecture

* **`Apart`** — marks one after the other. Drawing such marks is a plain recursion without its branch
  for marks that overlap, and all inductions on drawings go along it.
* **`le_antisymm`** and its companions — marks are drawn in sorted order, and sorting has one outcome.
* **`View.Shows`** — the ranges of a view are those of the spans of a document by their disposition. All
  that is said about a drawing is said about views of this kind.
* **`scanned_shows`** — a scan leaves such a view.

* **`draw_update_restores`** — right after a scan the drawing shows one placeholder for each folded span
  and each faded span as it is, and loses nothing else.
-/

namespace AttrFold

namespace Text

/-- A text from an offset on, with each of the given stretches replaced by the text beside it. -/
def replaceFrom (t : Text) (cursor : Nat) : List ((Nat × Nat) × Text) → Text
  | [] => t.drop cursor
  | ((start, stop), r) :: rs => t.slice cursor start ++ r ++ replaceFrom t stop rs

/-- Up to the first stretch all is kept, and the stretch gives way to its text. -/
theorem replaceFrom_cons (before gap under after r : Text) (rs : List ((Nat × Nat) × Text)) :
    replaceFrom (before ++ gap ++ under ++ after) before.length
        ((((before ++ gap).length, (before ++ gap ++ under).length), r) :: rs)
      = gap ++ r
        ++ replaceFrom (before ++ gap ++ under ++ after) (before ++ gap ++ under).length rs := by
  have hgap : (before ++ gap ++ under ++ after).slice before.length (before ++ gap).length = gap := by
    rw [List.length_append]
    refine slice_of_prefix_drop ⟨under ++ after, ?_⟩
    simp only [List.append_assoc, List.drop_left]
  rw [replaceFrom, hgap]

/-- What stands before the first stretch may be split off. -/
theorem slice_append_replaceFrom {t : Text} {a b : Nat} (hab : a ≤ b) {rs : List ((Nat × Nat) × Text)}
    (hrs : ∀ x ∈ rs, b ≤ x.1.1) : t.slice a b ++ t.replaceFrom b rs = t.replaceFrom a rs := by
  cases rs with
  | nil => exact slice_append_drop hab
  | cons x rs =>
    obtain ⟨⟨start, stop⟩, r⟩ := x
    have hstart : b ≤ start := hrs _ List.mem_cons_self
    rw [replaceFrom, replaceFrom, ← slice_append_slice hab hstart]
    simp only [List.append_assoc]

end Text

namespace Drawing

/-- The stretches of the style entries in one style. -/
def stretches (style : Style) (entries : List (Nat × Nat × Style)) : List (Nat × Nat) :=
  (entries.filter fun x => x.2.2 = style).map fun x => (x.1, x.2.1)

theorem stretches_append (style : Style) (xs ys : List (Nat × Nat × Style)) :
    stretches style (xs ++ ys) = stretches style xs ++ stretches style ys := by
  unfold stretches
  rw [List.filter_append, List.map_append]

/-- What lies under the stretches in one style, out of what lies under all entries. -/
theorem map_slice_stretches (t : Text) (style : Style) (entries : List (Nat × Nat × Style)) :
    (stretches style entries).map (fun x => t.slice x.1 x.2)
      = ((entries.map fun x => (t.slice x.1 x.2.1, x.2.2)).filter fun y => y.2 = style).map
          Prod.fst := by
  unfold stretches
  rw [List.filter_map, List.map_map, List.map_map]
  rfl

end Drawing

namespace View

open Drawing (written stylesFrom stretches styled? clean isDropped)

/-! ## Marks that are apart

`piecesFrom` passes over a mark that starts before its cursor. Along `Apart` this never happens. -/

/-- Marks that follow one another from an offset on, within a text. -/
inductive Apart (t : Text) : Nat → List Mark → Prop where
  | nil (cursor : Nat) : Apart t cursor []
  | cons {cursor : Nat} {m : Mark} {ms : List Mark} (hcursor : cursor ≤ m.start)
      (hends : m.start ≤ m.stop) (hstop : m.stop ≤ t.length) (rest : Apart t m.stop ms) :
      Apart t cursor (m :: ms)

/-- Marks within a text that are in order and do not overlap are apart. -/
theorem apart_of_pairwise {t : Text} {cursor : Nat} {ms : List Mark}
    (h : ms.Pairwise fun m n => m.stop ≤ n.start)
    (hm : ∀ m ∈ ms, cursor ≤ m.start ∧ m.start ≤ m.stop ∧ m.stop ≤ t.length) : Apart t cursor ms := by
  induction ms generalizing cursor with
  | nil => exact .nil cursor
  | cons m ms ih =>
    obtain ⟨hfirst, hrest⟩ := List.pairwise_cons.mp h
    obtain ⟨hcursor, hends, hstop⟩ := hm m List.mem_cons_self
    refine .cons hcursor hends hstop (ih hrest fun n hn => ?_)
    obtain ⟨-, hends, hstop⟩ := hm n (List.mem_cons_of_mem _ hn)
    exact ⟨hfirst n hn, hends, hstop⟩

variable {t : Text} {cursor : Nat} {ms : List Mark}

theorem Apart.le_start (h : Apart t cursor ms) : ∀ m ∈ ms, cursor ≤ m.start := by
  induction h with
  | nil cursor => simp
  | cons hcursor hends _ _ ih =>
    refine List.forall_mem_cons.mpr ⟨hcursor, fun n hn => ?_⟩
    exact Nat.le_trans hcursor (Nat.le_trans hends (ih n hn))

theorem Apart.pairwise (h : Apart t cursor ms) : ms.Pairwise fun m n => m.stop ≤ n.start := by
  induction h with
  | nil cursor => exact .nil
  | cons _ _ _ rest ih => exact .cons rest.le_start ih

/-- A mark at the cursor or behind it makes two pieces: the text up to it, and its own. -/
theorem piecesFrom_cons {m : Mark} (h : cursor ≤ m.start) : piecesFrom t cursor (m :: ms)
    = ⟨t.slice cursor m.start, none⟩ :: markPiece t m :: piecesFrom t m.stop ms :=
  if_neg (Nat.not_lt.mpr h)

/-- Of marks that are apart each one is drawn. -/
theorem filterMap_styled?_piecesFrom (h : Apart t cursor ms) :
    (piecesFrom t cursor ms).filterMap styled? = ms.filterMap fun m => styled? (markPiece t m) := by
  have hplain : ∀ p : Text, styled? ⟨p, none⟩ = none := fun p => by simp [styled?]
  induction h with
  | nil cursor => simp [piecesFrom, hplain]
  | cons hcursor _ _ _ ih =>
    rw [piecesFrom_cons hcursor, List.filterMap_cons, hplain, List.filterMap_cons, ih,
      List.filterMap_cons]

/-- A dimmed piece is no stretch of a placeholder. -/
theorem stretches_dimmed (start : Nat) (p : Text) :
    stretches .placeholder (Drawing.entryAt? start ⟨p, some .dimmed⟩).toList = [] := by
  unfold Drawing.entryAt?
  split <;> rfl

/-- A placeholder is a stretch of its own length. -/
theorem stretches_placeholder (start : Nat) :
    stretches .placeholder (Drawing.entryAt? start ⟨Drawing.placeholder, some .placeholder⟩).toList
      = [(start, start + Drawing.placeholder.length)] := rfl

/-- A piece without a style only moves the styles behind it. -/
theorem stylesFrom_plain (start : Nat) (p : Text) (ps : List Piece) :
    stylesFrom start (⟨p, none⟩ :: ps) = stylesFrom (start + (clean p).length) ps := by
  simp [stylesFrom, Drawing.entryAt?]

/-- The folded stretches in the place of their placeholders give the text again. In the induction
`before` is all that the replacement has passed, up to the last placeholder, and `gap` what has been
drawn since. -/
theorem replaceFrom_piecesFrom (hclean : ∀ c ∈ t, isDropped c = false) (h : Apart t cursor ms)
    (before gap : Text) :
    Text.replaceFrom (before ++ gap ++ written (piecesFrom t cursor ms)) before.length
        ((stretches .placeholder (stylesFrom (before ++ gap).length (piecesFrom t cursor ms))).zip
          ((ms.filter fun m => m.isFolded).map fun m => t.slice m.start m.stop))
      = gap ++ t.drop cursor := by
  have hslice : ∀ a b, clean (t.slice a b) = t.slice a b := fun a b =>
    Drawing.clean_eq_self fun c hc => hclean c (Text.mem_of_mem_slice hc)
  induction h generalizing before gap with
  | nil cursor =>
    have hdrop : clean (t.drop cursor) = t.drop cursor :=
      Drawing.clean_eq_self fun c hc => hclean c (List.mem_of_mem_drop hc)
    have hstyles : stylesFrom (before ++ gap).length (piecesFrom t cursor []) = [] := by
      rw [piecesFrom, stylesFrom_plain, stylesFrom]
    rw [hstyles]
    show (before ++ gap ++ written (piecesFrom t cursor [])).drop before.length = _
    rw [List.append_assoc, List.drop_left]
    simp [piecesFrom, written, hdrop]
  | @cons cursor m ms hcursor hends hstop rest ih =>
    rw [piecesFrom_cons hcursor, stylesFrom_plain, hslice]
    have hjoin : t.slice cursor m.start ++ (t.slice m.start m.stop ++ t.drop m.stop)
        = t.drop cursor := by
      rw [Text.slice_append_drop hends, Text.slice_append_drop hcursor]
    have hwritten : written (⟨t.slice cursor m.start, none⟩ :: markPiece t m :: piecesFrom t m.stop ms)
        = t.slice cursor m.start ++ clean (markPiece t m).text ++ written (piecesFrom t m.stop ms) := by
      rw [Drawing.written_cons, Drawing.written_cons, hslice, List.append_assoc]
    cases hm : m.isFolded with
    | false =>
      -- what is faded is drawn as it is and joins the gap
      have hpiece : markPiece t m = ⟨t.slice m.start m.stop, some .dimmed⟩ := if_neg (by simp [hm])
      have hrest := ih before (gap ++ t.slice cursor m.start ++ t.slice m.start m.stop)
      have hfilter : (m :: ms).filter (fun m => m.isFolded) = ms.filter fun m => m.isFolded :=
        List.filter_cons_of_neg (by simp [hm])
      rw [hwritten, hfilter, hpiece, stylesFrom, Drawing.stretches_append, stretches_dimmed, hslice]
      simp only [List.length_append, List.append_assoc, List.nil_append, Nat.add_assoc] at hrest ⊢
      rw [hrest, hjoin]
    | true =>
      -- what is folded ends the gap: its placeholder is passed together with what was drawn before
      have hpiece : markPiece t m = ⟨Drawing.placeholder, some .placeholder⟩ := if_pos hm
      have hrest := ih (before ++ (gap ++ t.slice cursor m.start) ++ Drawing.placeholder) []
      have hfilter : (m :: ms).filter (fun m => m.isFolded) = m :: ms.filter fun m => m.isFolded :=
        List.filter_cons_of_pos hm
      have hfirst := fun rs => Text.replaceFrom_cons before (gap ++ t.slice cursor m.start)
        Drawing.placeholder (written (piecesFrom t m.stop ms)) (t.slice m.start m.stop) rs
      rw [hwritten, hfilter, hpiece, stylesFrom, Drawing.stretches_append, stretches_placeholder,
        Drawing.clean_placeholder, List.map_cons, List.singleton_append, List.zip_cons_cons]
      simp only [List.length_append, List.append_assoc, List.nil_append, List.append_nil,
        Nat.add_assoc] at hrest hfirst ⊢
      rw [hfirst, hrest, hjoin]

/-! ## The order of marks

The order is total and antisymmetric, so any sorted arrangement of the same marks is the one that is
drawn. The spans give such an arrangement: their document order. -/

/-- Marks are in the order of their starts, then of their ends, then with faded before folded. -/
theorem le_iff {a b : Mark} : Mark.le a b = true ↔ a.start < b.start ∨ a.start = b.start ∧
    (a.stop < b.stop ∨ a.stop = b.stop ∧ (a.isFolded = false ∨ b.isFolded = true)) := by
  simp [Mark.le]

theorem le_trans (a b c : Mark) (hab : Mark.le a b = true) (hbc : Mark.le b c = true) :
    Mark.le a c = true := by
  rw [le_iff] at *
  grind

theorem le_total (a b : Mark) : (Mark.le a b || Mark.le b a) = true := by
  rw [Bool.or_eq_true, le_iff, le_iff]
  grind

theorem le_antisymm {a b : Mark} (hab : Mark.le a b = true) (hba : Mark.le b a = true) : a = b := by
  rw [le_iff] at *
  obtain ⟨start, stop, folded⟩ := a
  obtain ⟨start', stop', folded'⟩ := b
  simp only [Mark.mk.injEq] at *
  grind

variable {v : View} {d : Document} {spans : List Span} {f : Span → Disposition}

/-- The mark of a span by its disposition. -/
def markOf (d : Document) (f : Span → Disposition) (s : Span) : Mark :=
  Mark.ofRange d (f s = .folded) s.range

/-- The marks of spans that stand in order are sorted back into that order. -/
theorem marks_eq_map
    (hfolded : v.folded = (spans.filter fun s => f s = .folded).map Span.range)
    (hfaded : v.faded = (spans.filter fun s => f s = .faded).map Span.range)
    (hord : spans.Pairwise fun s u => d.offsetAt s.range.start < d.offsetAt u.range.start) :
    v.marks d = (spans.filter fun s => f s ≠ .unfolded).map (markOf d f) := by
  have hmarks : ∀ x : Disposition, ∀ s ∈ spans.filter (fun s => f s = x), f s = x := fun x s hs =>
    of_decide_eq_true (List.mem_filter.mp hs).2
  have hperm : (v.folded.map (Mark.ofRange d true) ++ v.faded.map (Mark.ofRange d false)).Perm
      ((spans.filter fun s => f s ≠ .unfolded).map (markOf d f)) := by
    have hmapFolded : v.folded.map (Mark.ofRange d true)
        = (spans.filter fun s => f s = .folded).map (markOf d f) := by
      rw [hfolded, List.map_map]
      refine List.map_congr_left fun s hs => ?_
      simp [markOf, hmarks _ s hs]
    have hmapFaded : v.faded.map (Mark.ofRange d false)
        = (spans.filter fun s => f s = .faded).map (markOf d f) := by
      rw [hfaded, List.map_map]
      refine List.map_congr_left fun s hs => ?_
      simp [markOf, hmarks _ s hs]
    -- what is decorated is split into what is folded and the rest, which is faded
    have hsplit := List.filter_append_perm (fun s => f s = .folded)
      (spans.filter fun s => f s ≠ .unfolded)
    rw [List.filter_filter, List.filter_filter] at hsplit
    rw [hmapFolded, hmapFaded, ← List.map_append]
    refine List.Perm.map _ ((List.Perm.of_eq ?_).trans hsplit)
    congr 1 <;> refine List.filter_congr fun s _ => ?_ <;> cases f s <;> rfl
  -- both sides hold the same marks in sorted order
  refine List.Perm.eq_of_pairwise (fun a b _ _ => le_antisymm)
    (List.pairwise_mergeSort le_trans le_total _) ?_ ((List.mergeSort_perm _ _).trans hperm)
  refine List.pairwise_map.mpr ((hord.filter _).imp fun hlt => ?_)
  exact le_iff.mpr (.inl hlt)

/-! ## What is drawn of spans

Of each span that is folded or faded exactly one piece is drawn with a style, `shown`. Picking one style
out of these gives the folded or the faded spans again. -/

/-- The style in which spans of a disposition are drawn. -/
def style? : Disposition → Option Style
  | .unfolded => none
  | .faded => some .dimmed
  | .folded => some .placeholder

/-- What a decorated span is drawn as. -/
def shown (f : Span → Disposition) (s : Span) : Text × Style :=
  if f s = .folded then (Drawing.placeholder, .placeholder) else (s.text, .dimmed)

/-- The folded spans are shown as placeholders. -/
theorem shown_folded (f : Span → Disposition) (spans : List Span) :
    (((spans.filter fun s => f s ≠ .unfolded).map (shown f)).filter fun y => y.2 = .placeholder).map
        Prod.fst
      = (spans.filter fun s => f s = .folded).map fun _ => Drawing.placeholder := by
  induction spans with
  | nil => rfl
  | cons s spans ih => cases hs : f s <;> simpa [hs, shown] using ih

theorem shown_faded (f : Span → Disposition) (spans : List Span) :
    (((spans.filter fun s => f s ≠ .unfolded).map (shown f)).filter fun y => y.2 = .dimmed).map
        Prod.fst
      = (spans.filter fun s => f s = .faded).map Span.text := by
  induction spans with
  | nil => rfl
  | cons s spans ih => cases hs : f s <;> simpa [hs, shown] using ih

/-- The spans that are shown have the styles of their dispositions. -/
theorem map_style_shown (f : Span → Disposition) (spans : List Span) :
    ((spans.filter fun s => f s ≠ .unfolded).map (shown f)).map Prod.snd
      = spans.filterMap fun s => style? (f s) := by
  induction spans with
  | nil => rfl
  | cons s spans ih => cases hs : f s <;> simpa [hs, shown, style?] using ih

/-- The mark of a span shows what is to be shown of the span. -/
theorem styled?_markOf {s : Span} (hclean : ∀ c ∈ d.text, isDropped c = false) (hne : s.text ≠ [])
    (hslice : d.text.slice (d.offsetAt s.range.start) (d.offsetAt s.range.stop) = s.text) :
    styled? (markPiece d.text (markOf d f s)) = some (shown f s) := by
  have htext : clean s.text = s.text := by
    rw [← hslice]
    exact Drawing.clean_eq_self fun c hc => hclean c (Text.mem_of_mem_slice hc)
  unfold markOf markPiece shown Mark.ofRange
  by_cases hs : f s = .folded
  · simp [hs, styled?, Drawing.clean_placeholder, show Drawing.placeholder.isEmpty = false from rfl]
  · simp [hs, styled?, hslice, hne, htext]

/-- The folded stretches of the marks are the texts of the folded spans. -/
theorem map_slice_folded
    (hslice : ∀ s ∈ spans,
      d.text.slice (d.offsetAt s.range.start) (d.offsetAt s.range.stop) = s.text) :
    ((((spans.filter fun s => f s ≠ .unfolded).map (markOf d f)).filter fun m => m.isFolded).map
        fun m => d.text.slice m.start m.stop)
      = (spans.filter fun s => f s = .folded).map Span.text := by
  induction spans with
  | nil => rfl
  | cons s spans ih =>
    have hs := hslice s List.mem_cons_self
    have hrest := ih fun u hu => hslice u (List.mem_cons_of_mem _ hu)
    cases hf : f s <;> simpa [hf, markOf, Mark.ofRange, hs] using hrest

/-- A view holds the ranges of the spans of a document by their disposition. -/
structure Shows (v : View) (d : Document) (mode : Mode) (f : Span → Disposition) : Prop where
  folded : v.folded = ((d.spans mode).filter fun s => f s = .folded).map Span.range
  faded : v.faded = ((d.spans mode).filter fun s => f s = .faded).map Span.range

namespace Shows

variable {mode : Mode} (h : v.Shows d mode f)
include h

/-- The marks of a view are those of the spans that are not unfolded, in their order. -/
theorem marks_eq (hcr : '\r' ∉ d.text) :
    v.marks d = ((d.spans mode).filter fun s => f s ≠ .unfolded).map (markOf d f) := by
  refine marks_eq_map h.folded h.faded ((d.pairwise_offsetAt_spans (.inr hcr)).imp_of_mem ?_)
  intro s u hs _ hle
  have := (d.offsetAt_lt_of_mem_spans (.inr hcr) hs).1
  omega

/-- No mark starts before an earlier one stops. -/
theorem pairwise_marks (hcr : '\r' ∉ d.text) :
    (v.marks d).Pairwise fun m n => m.stop ≤ n.start := by
  rw [h.marks_eq hcr]
  exact List.pairwise_map.mpr ((d.pairwise_offsetAt_spans (.inr hcr)).filter _)

/-- The marks of a view are apart. -/
theorem apart_marks (hcr : '\r' ∉ d.text) : Apart d.text 0 (v.marks d) := by
  refine apart_of_pairwise (h.pairwise_marks hcr) fun m hm => ?_
  rw [h.marks_eq hcr] at hm
  obtain ⟨s, hs, rfl⟩ := List.mem_map.mp hm
  obtain ⟨hlt, hstop⟩ := d.offsetAt_lt_of_mem_spans (.inr hcr) (List.mem_filter.mp hs).1
  exact ⟨Nat.zero_le _, Nat.le_of_lt hlt, hstop⟩

end Shows

theorem return_not_mem (hclean : ∀ c ∈ d.text, isDropped c = false) : '\r' ∉ d.text :=
  fun hmem => absurd (hclean _ hmem) (by decide)

/-- What is drawn is written from the pieces between and under the marks. -/
theorem plain_draw (v : View) (d : Document) :
    (v.draw d).plain = written (piecesFrom d.text 0 (v.marks d)) :=
  Drawing.plain_foldl_append _ {}

/-- The styles of a drawing are those of the pieces. -/
theorem styles_draw (v : View) (d : Document) :
    (v.draw d).styles = stylesFrom 0 (piecesFrom d.text 0 (v.marks d)) :=
  Drawing.styles_foldl_append _ {}

/-- The styles of a drawing do not overlap and are in order. -/
theorem pairwise_styles_draw (v : View) (d : Document) :
    (v.draw d).styles.Pairwise fun x y => x.2.1 ≤ y.1 := by
  rw [styles_draw]
  exact Drawing.pairwise_stylesFrom _ 0

/-- The style entries lie within the drawn text. -/
theorem bounds_of_mem_styles_draw {x : Nat × Nat × Style} (hx : x ∈ (v.draw d).styles) :
    x.1 ≤ x.2.1 ∧ x.2.1 ≤ (v.draw d).plain.length := by
  rw [styles_draw] at hx
  have hbounds := Drawing.bounds_of_mem_stylesFrom hx
  rw [plain_draw]
  omega

/-- Under the style entries of a drawing lies what its pieces show. -/
theorem slice_styles_draw_pieces (v : View) (d : Document) :
    (v.draw d).styles.map (fun x => ((v.draw d).plain.slice x.1 x.2.1, x.2.2))
      = (piecesFrom d.text 0 (v.marks d)).filterMap styled? := by
  have hentries := Drawing.slice_stylesFrom (piecesFrom d.text 0 (v.marks d)) [] []
  rw [List.append_nil, List.nil_append, ← plain_draw, List.length_nil, ← styles_draw] at hentries
  exact hentries

namespace Shows

variable {mode : Mode} (h : v.Shows d mode f) (hclean : ∀ c ∈ d.text, isDropped c = false)
include h hclean

/-- Each span that is folded or faded has its style entry, in the order of the document. -/
theorem slice_styles_draw :
    (v.draw d).styles.map (fun x => ((v.draw d).plain.slice x.1 x.2.1, x.2.2))
      = ((d.spans mode).filter fun s => f s ≠ .unfolded).map (shown f) := by
  have hcr := return_not_mem hclean
  rw [slice_styles_draw_pieces, filterMap_styled?_piecesFrom (h.apart_marks hcr), h.marks_eq hcr,
    List.filterMap_map]
  refine List.filterMap_eq_map_iff_forall_eq_some.mpr fun s hs => ?_
  have hmem := (List.mem_filter.mp hs).1
  obtain ⟨start, hstands, -⟩ := d.exists_standsAt_of_mem_spans hmem
  exact styled?_markOf hclean hstands.nonempty (d.slice_offsetAt_of_mem_spans (.inr hcr) hmem)

/-- With the folded texts in place of the placeholders a drawing is the text. -/
theorem replaceFrom_draw :
    (v.draw d).plain.replaceFrom 0 ((stretches .placeholder (v.draw d).styles).zip
      (((d.spans mode).filter fun s => f s = .folded).map Span.text)) = d.text := by
  have hcr := return_not_mem hclean
  have hreplace := replaceFrom_piecesFrom hclean (h.apart_marks hcr) [] []
  rw [List.append_nil, List.nil_append, ← plain_draw, List.length_nil, ← styles_draw, h.marks_eq hcr,
    map_slice_folded fun s hs => d.slice_offsetAt_of_mem_spans (.inr hcr) hs] at hreplace
  exact hreplace

end Shows

end View

/-! ## Right after a scan -/

namespace Session

/-- After a scan the view shows the spans by their dispositions. -/
theorem scanned_shows (s : Session) (e : Editor) : (s.scanned (s.classify e)).view.Shows e.document
    s.settings.foldStyle.mode (s.disposition e) where
  folded := congrArg (List.map Span.range) (s.bucket_classify e .folded)
  faded := congrArg (List.map Span.range) (s.bucket_classify e .faded)

open Drawing (stretches)

/-- **The drawing right after a scan loses nothing but the folded texts.** -/
theorem draw_update_restores {s : Session} {e : Editor}
    (hlang : s.settings.supports e.document.language = true)
    (hclean : ∀ c ∈ e.document.text, Drawing.isDropped c = false) :
    let c := s.classify e
    let after := (s.update (some e)).1
    let g := after.view.draw e.document
    after.result = some c ∧
      (after.view.marks e.document).Pairwise (fun m n => m.stop ≤ n.start) ∧
      g.styles.Pairwise (fun x y => x.2.1 ≤ y.1) ∧
      g.styles.map (fun x => x.2.2) = (e.document.spans s.settings.foldStyle.mode).filterMap
        (fun span => View.style? (s.disposition e span)) ∧
      (stretches .placeholder g.styles).map (fun x => g.plain.slice x.1 x.2)
        = c.folded.map (fun _ => Drawing.placeholder) ∧
      (stretches .dimmed g.styles).map (fun x => g.plain.slice x.1 x.2) = c.faded.map Span.text ∧
      g.plain.replaceFrom 0 ((stretches .placeholder g.styles).zip (c.folded.map Span.text))
        = e.document.text := by
  intro c after g
  have hafter : after = s.scanned c := update_supported hlang
  have hshows : after.view.Shows e.document s.settings.foldStyle.mode (s.disposition e) := by
    rw [hafter]
    exact s.scanned_shows e
  have hcr := View.return_not_mem hclean
  -- under each style entry lies what its span shows; the claims on styles and stretches read this off
  have hentries := hshows.slice_styles_draw hclean
  refine ⟨?_, hshows.pairwise_marks hcr, ?_, ?_, ?_, ?_, ?_⟩
  · rw [hafter]
    rfl
  · rw [View.styles_draw]
    exact Drawing.pairwise_stylesFrom _ 0
  · have hstyles := congrArg (List.map Prod.snd) hentries
    rw [List.map_map, View.map_style_shown] at hstyles
    exact hstyles
  · rw [Drawing.map_slice_stretches, hentries, View.shown_folded]
    exact congrArg (List.map _) (s.bucket_classify e .folded).symm
  · rw [Drawing.map_slice_stretches, hentries, View.shown_faded]
    exact congrArg (List.map _) (s.bucket_classify e .faded).symm
  · rw [show c.folded = _ from s.bucket_classify e .folded]
    exact hshows.replaceFrom_draw hclean

/-- Two attributes that touch, the second one over two lines and too long to be folded. -/
theorem draw_update_restores_touching :
    let settings : Settings :=
      { autoFold := true, supportedLanguages := ["html"], foldMaxLength := 9 }
    let s : Session := { settings }
    let e : Editor := { document := ⟨"class='a'class='a\nb'…", "html"⟩ }
    let g := (s.update (some e)).1.view.draw e.document
    s.settings.supports e.document.language = true ∧
      (∀ c ∈ e.document.text, Drawing.isDropped c = false) ∧
      (stretches .placeholder g.styles).map (fun x => g.plain.slice x.1 x.2) = [Drawing.placeholder] ∧
      (stretches .dimmed g.styles).map (fun x => g.plain.slice x.1 x.2) = [("class='a\nb'" : Text)] ∧
      g.plain.replaceFrom 0 ((stretches .placeholder g.styles).zip ["class='a'"])
        = e.document.text := by
  intro settings s e g
  have hlang : s.settings.supports e.document.language = true := by decide
  have hnone : e.document.text.any Drawing.isDropped = false := by decide
  have hclean : ∀ c ∈ e.document.text, Drawing.isDropped c = false := fun c hc =>
    Bool.eq_false_iff.mpr (List.any_eq_false.mp hnone c hc)
  obtain ⟨-, -, -, -, hfolded, hfaded, hrestored⟩ := draw_update_restores hlang hclean
  have hfoldedTexts : (s.classify e).folded.map Span.text = ["class='a'"] := by decide +kernel
  have hfadedTexts : (s.classify e).faded.map Span.text = ["class='a\nb'"] := by decide +kernel
  have hplaceholders : (s.classify e).folded.map (fun _ => Drawing.placeholder)
      = [Drawing.placeholder] := by decide +kernel
  rw [hplaceholders] at hfolded
  rw [hfadedTexts] at hfaded
  rw [hfoldedTexts] at hrestored
  exact ⟨hlang, hclean, hfolded, hfaded, hrestored⟩

end Session

end AttrFold
