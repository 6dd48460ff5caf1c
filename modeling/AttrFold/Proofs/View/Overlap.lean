import AttrFold.Proofs.View

/-!
# The drawing of ranges that overlap

A view holds whatever ranges it was given: some may overlap, stand twice, be empty or reach out of the
document. Drawing them goes over the sorted marks once and passes over each mark that starts before what
has been drawn ends. Nothing but the folded stretches of the drawn marks is lost by that.

## The crux

After a drawn mark the drawing goes on at the end of that mark. A mark that starts before this place
has to be passed over, or text would be drawn twice; one that is passed over must not move the
place, or text would be left out. Neither is proved on the drawing itself. The marks are first
divided by the same comparison (`drawnFrom`, `passedFrom`): the drawn ones are apart from one
another, so all that is known of marks that are apart holds of them, and to draw them alone is to
draw all marks (`piecesFrom_drawnFrom`).

* **`exists_drawn_of_mem_passedFrom`** — a mark is passed over only if it starts inside a drawn one.
  Here the order of the marks counts: a later mark does not start before an earlier one.
* **`written_piecesFrom`** — of marks that are apart the drawing shows the text, each folded stretch
  replaced.
* **`piecesFrom_append_cons`** — a drawing up to a mark is that of the text before the mark, which
  says where the style entry of each mark stands.
* **`draw_loses_only_folds`** — all of this together, for every view of every document.
-/

namespace AttrFold

/-- What a mark shows of a text and in which style. An empty stretch that is faded shows nothing. -/
def Mark.shown? (t : Text) (m : Mark) : Option (Text × Style) :=
  if m.isFolded then some (Drawing.placeholder, .placeholder)
  else if m.start < m.stop then some (Drawing.clean (t.slice m.start m.stop), .dimmed)
  else none

namespace View

open Drawing (written stylesFrom styled? clean)

/-! ## Drawn and passed over -/

/-- The marks that are drawn when all before an offset has been drawn. -/
def drawnFrom (cursor : Nat) : List Mark → List Mark
  | [] => []
  | m :: ms => if m.start < cursor then drawnFrom cursor ms else m :: drawnFrom m.stop ms

/-- The marks that are passed over when all before an offset has been drawn. -/
def passedFrom (cursor : Nat) : List Mark → List Mark
  | [] => []
  | m :: ms => if m.start < cursor then m :: passedFrom cursor ms else passedFrom m.stop ms

variable {t : Text} {cursor : Nat} {ms : List Mark}

/-- A mark that starts before the cursor is not drawn. -/
theorem drawnFrom_of_lt {m : Mark} (h : m.start < cursor) :
    drawnFrom cursor (m :: ms) = drawnFrom cursor ms := if_pos h

theorem drawnFrom_of_le {m : Mark} (h : cursor ≤ m.start) :
    drawnFrom cursor (m :: ms) = m :: drawnFrom m.stop ms := if_neg (Nat.not_lt.mpr h)

theorem passedFrom_of_lt {m : Mark} (h : m.start < cursor) :
    passedFrom cursor (m :: ms) = m :: passedFrom cursor ms := if_pos h

theorem passedFrom_of_le {m : Mark} (h : cursor ≤ m.start) :
    passedFrom cursor (m :: ms) = passedFrom m.stop ms := if_neg (Nat.not_lt.mpr h)

/-- Each mark is either drawn or passed over. -/
theorem drawnFrom_append_passedFrom_perm (cursor : Nat) (ms : List Mark) :
    (drawnFrom cursor ms ++ passedFrom cursor ms).Perm ms := by
  induction ms generalizing cursor with
  | nil => exact .refl _
  | cons m ms ih =>
    rcases Nat.lt_or_ge m.start cursor with hlt | hge
    · rw [drawnFrom_of_lt hlt, passedFrom_of_lt hlt]
      exact List.perm_middle.trans ((ih cursor).cons m)
    · rw [drawnFrom_of_le hge, passedFrom_of_le hge]
      exact (ih m.stop).cons m

theorem mem_of_mem_drawnFrom {m : Mark} (hm : m ∈ drawnFrom cursor ms) : m ∈ ms :=
  (drawnFrom_append_passedFrom_perm cursor ms).subset (List.mem_append_left _ hm)

theorem mem_of_mem_passedFrom {m : Mark} (hm : m ∈ passedFrom cursor ms) : m ∈ ms :=
  (drawnFrom_append_passedFrom_perm cursor ms).subset (List.mem_append_right _ hm)

/-- To draw the drawn marks alone is to draw all of them. -/
theorem piecesFrom_drawnFrom (t : Text) (cursor : Nat) (ms : List Mark) :
    piecesFrom t cursor (drawnFrom cursor ms) = piecesFrom t cursor ms := by
  induction ms generalizing cursor with
  | nil => rfl
  | cons m ms ih =>
    rcases Nat.lt_or_ge m.start cursor with hlt | hge
    · rw [drawnFrom_of_lt hlt, ih, piecesFrom, if_pos hlt]
    · rw [drawnFrom_of_le hge, piecesFrom_cons hge, piecesFrom_cons hge, ih]

/-- The marks that are drawn are apart. -/
theorem apart_drawnFrom (hms : ∀ m ∈ ms, m.start ≤ m.stop ∧ m.stop ≤ t.length) (cursor : Nat) :
    Apart t cursor (drawnFrom cursor ms) := by
  induction ms generalizing cursor with
  | nil => exact .nil cursor
  | cons m ms ih =>
    obtain ⟨⟨hends, hstop⟩, hrest⟩ := List.forall_mem_cons.mp hms
    rcases Nat.lt_or_ge m.start cursor with hlt | hge
    · rw [drawnFrom_of_lt hlt]
      exact ih hrest cursor
    · rw [drawnFrom_of_le hge]
      exact .cons hge hends hstop (ih hrest m.stop)

/-- A mark that is passed over starts before the cursor or inside a mark that is drawn. -/
theorem exists_drawn_of_mem_passedFrom (hsorted : ms.Pairwise fun m n => m.start ≤ n.start) {m : Mark}
    (hm : m ∈ passedFrom cursor ms) :
    m.start < cursor ∨ ∃ n ∈ drawnFrom cursor ms, n.start ≤ m.start ∧ m.start < n.stop := by
  induction ms generalizing cursor with
  | nil => cases hm
  | cons n ms ih =>
    obtain ⟨hfirst, hsorted⟩ := List.pairwise_cons.mp hsorted
    rcases Nat.lt_or_ge n.start cursor with hlt | hge
    · rw [passedFrom_of_lt hlt] at hm
      rw [drawnFrom_of_lt hlt]
      rcases List.mem_cons.mp hm with rfl | hm
      · exact .inl hlt
      · exact ih hsorted hm
    · rw [passedFrom_of_le hge] at hm
      rw [drawnFrom_of_le hge]
      rcases ih hsorted hm with hbefore | ⟨u, hu, hinside⟩
      · -- before the new cursor, and not before `n`, after which it is sorted
        have hafter : n.start ≤ m.start := hfirst m (mem_of_mem_passedFrom hm)
        exact .inr ⟨n, List.mem_cons_self, hafter, hbefore⟩
      · exact .inr ⟨u, List.mem_cons_of_mem _ hu, hinside⟩

/-- The longer one of two marks with one start is passed over, and so is what starts in the shorter
one; an empty mark at its end is drawn. -/
example : drawnFrom 0 [⟨1, 3, true⟩, ⟨1, 5, true⟩, ⟨2, 6, false⟩, ⟨3, 3, true⟩]
    = [⟨1, 3, true⟩, ⟨3, 3, true⟩] := by decide

/-! ## What marks that are apart show -/

/-- The folded stretches of marks, each with the placeholder that takes its place. -/
def folds (ms : List Mark) : List ((Nat × Nat) × Text) :=
  (ms.filter fun m => m.isFolded).map fun m => ((m.start, m.stop), Drawing.placeholder)

theorem folds_eq_nil (h : ∀ m ∈ ms, m.isFolded = false) : folds ms = [] := by
  unfold folds
  rw [List.filter_eq_nil_iff.mpr fun m hm => by simp [h m hm], List.map_nil]

/-- What is replaced stands at the cursor or behind it. -/
theorem le_of_mem_folds (h : Apart t cursor ms) : ∀ x ∈ folds ms, cursor ≤ x.1.1 := by
  intro x hx
  obtain ⟨m, hm, rfl⟩ := List.mem_map.mp hx
  exact h.le_start m (List.mem_filter.mp hm).1

/-- The drawing of marks that are apart is the text with placeholders for its folded stretches. -/
theorem written_piecesFrom (h : Apart t cursor ms) :
    written (piecesFrom t cursor ms) = clean (t.replaceFrom cursor (folds ms)) := by
  induction h with
  | nil cursor => exact List.append_nil _
  | @cons cursor m ms hcursor hends hstop rest ih =>
    rw [piecesFrom_cons hcursor, Drawing.written_cons, Drawing.written_cons, ih]
    cases hm : m.isFolded with
    | false =>
      -- what is faded is drawn as it is, so the text goes on from the cursor to the next fold
      have hpiece : markPiece t m = ⟨t.slice m.start m.stop, some .dimmed⟩ := if_neg (by simp [hm])
      have hfolds : folds (m :: ms) = folds ms := by simp [folds, hm]
      have hstarts := le_of_mem_folds rest
      rw [hpiece, hfolds, ← Drawing.clean_append, ← Drawing.clean_append,
        Text.slice_append_replaceFrom hends hstarts,
        Text.slice_append_replaceFrom hcursor fun x hx => Nat.le_trans hends (hstarts x hx)]
    | true =>
      have hpiece : markPiece t m = ⟨Drawing.placeholder, some .placeholder⟩ := if_pos hm
      have hfolds : folds (m :: ms) = ((m.start, m.stop), Drawing.placeholder) :: folds ms := by
        simp [folds, hm]
      rw [hpiece, hfolds, Text.replaceFrom, Drawing.clean_append, Drawing.clean_append,
        List.append_assoc]

/-- The piece of a mark shows what is to be shown of the mark. -/
theorem styled?_markPiece {m : Mark} (hstop : m.stop ≤ t.length) :
    styled? (markPiece t m) = m.shown? t := by
  have hlen := Text.length_slice m.start hstop
  unfold markPiece Mark.shown?
  cases m.isFolded with
  | true => rfl
  | false =>
    by_cases hlt : m.start < m.stop
    · have hne : (t.slice m.start m.stop).isEmpty = false := by
        rw [List.isEmpty_eq_false_iff, ← List.length_pos_iff]
        omega
      simp [styled?, hne, hlt]
    · have hnil : t.slice m.start m.stop = [] := by
        rw [← List.length_eq_zero_iff]
        omega
      simp [styled?, hnil, hlt]

/-! ## Where a mark is drawn

Up to the start of a mark the drawing is that of the text before it, as if nothing followed. -/

/-- Marks before another one are apart in the text before it. -/
theorem apart_take {m : Mark} {before after : List Mark} (h : Apart t cursor (before ++ m :: after)) :
    Apart (t.take m.start) cursor before := by
  induction before generalizing cursor with
  | nil => exact .nil cursor
  | cons b before ih =>
    cases h with
    | cons hcursor hends hstop rest =>
      have hbefore : b.stop ≤ m.start :=
        rest.le_start m (List.mem_append_right _ List.mem_cons_self)
      refine .cons hcursor hends ?_ (ih rest)
      rw [List.length_take]
      omega

/-- The piece of a mark does not depend on the text behind it. -/
theorem markPiece_take {b : Mark} {n : Nat} (h : b.stop ≤ n) :
    markPiece (t.take n) b = markPiece t b := by
  unfold markPiece
  rw [Text.slice_take b.start h]

/-- The pieces of marks are those before one of them, its own, and those behind it. -/
theorem piecesFrom_append_cons {m : Mark} {before after : List Mark}
    (h : Apart t cursor (before ++ m :: after)) : piecesFrom t cursor (before ++ m :: after)
      = piecesFrom (t.take m.start) cursor before ++ markPiece t m :: piecesFrom t m.stop after := by
  induction before generalizing cursor with
  | nil =>
    cases h with
    | cons hcursor _ _ _ =>
      have hslice : t.slice cursor m.start = (t.take m.start).drop cursor := by
        rw [List.drop_take]
        rfl
      rw [List.nil_append, piecesFrom_cons hcursor, hslice]
      rfl
  | cons b before ih =>
    cases h with
    | cons hcursor hends _ rest =>
      have hbefore : b.stop ≤ m.start :=
        rest.le_start m (List.mem_append_right _ List.mem_cons_self)
      rw [List.cons_append, piecesFrom_cons hcursor, piecesFrom_cons hcursor, ih rest,
        Text.slice_take cursor (Nat.le_trans hends hbefore), markPiece_take hbefore]
      rfl

/-- The style entry of a mark starts where the drawing of the text before the mark ends. -/
theorem mem_stylesFrom_piecesFrom {m : Mark} {before after : List Mark} {y : Text × Style}
    (h : Apart t cursor (before ++ m :: after)) (hstop : m.stop ≤ t.length)
    (hshown : m.shown? t = some y) :
    let start := (clean (Text.replaceFrom (t.take m.start) cursor (folds before))).length
    (start, start + y.1.length, y.2) ∈ stylesFrom 0 (piecesFrom t cursor (before ++ m :: after)) := by
  intro start
  have hstart : 0 + (written (piecesFrom (t.take m.start) cursor before)).length = start := by
    rw [written_piecesFrom (apart_take h), Nat.zero_add]
  rw [piecesFrom_append_cons h, Drawing.stylesFrom_append, hstart, stylesFrom, Drawing.entryAt?_eq,
    styled?_markPiece hstop, hshown]
  exact List.mem_append_right _ (List.mem_append_left _ List.mem_cons_self)

/-! ## The marks of a view -/

variable {v : View} {d : Document}

/-- The marks of a view are one for each folded and each faded range. -/
theorem marks_perm (v : View) (d : Document) :
    (v.marks d).Perm (v.folded.map (Mark.ofRange d true) ++ v.faded.map (Mark.ofRange d false)) :=
  List.mergeSort_perm _ _

/-- The marks of a view are in the order of their starts. -/
theorem pairwise_start_marks (v : View) (d : Document) :
    (v.marks d).Pairwise fun m n => m.start ≤ n.start := by
  refine (List.pairwise_mergeSort le_trans le_total _).imp fun {m n} hle => ?_
  rw [le_iff] at hle
  omega

/-- Each mark of a view is that of a folded or a faded range. -/
theorem exists_range_of_mem_marks {m : Mark} (hm : m ∈ v.marks d) :
    ∃ r, (r ∈ v.folded ∧ m = Mark.ofRange d true r) ∨ (r ∈ v.faded ∧ m = Mark.ofRange d false r) := by
  rw [(marks_perm v d).mem_iff, List.mem_append, List.mem_map, List.mem_map] at hm
  rcases hm with ⟨r, hr, rfl⟩ | ⟨r, hr, rfl⟩
  · exact ⟨r, .inl ⟨hr, rfl⟩⟩
  · exact ⟨r, .inr ⟨hr, rfl⟩⟩

/-- Also a range outside the document has a mark inside it. -/
theorem bounds_of_mem_marks {m : Mark} (hm : m ∈ v.marks d) :
    m.start ≤ m.stop ∧ m.stop ≤ d.text.length := by
  have hrange : ∀ (isFolded : Bool) (r : Range), (Mark.ofRange d isFolded r).start
      ≤ (Mark.ofRange d isFolded r).stop ∧ (Mark.ofRange d isFolded r).stop ≤ d.text.length :=
    fun _ r => ⟨Document.offsetAt_mono r.start_le_stop, d.offsetAt_le_length r.stop⟩
  obtain ⟨r, ⟨-, rfl⟩ | ⟨-, rfl⟩⟩ := exists_range_of_mem_marks hm
  · exact hrange true r
  · exact hrange false r

theorem apart_drawn (v : View) (d : Document) : Apart d.text 0 (drawnFrom 0 (v.marks d)) :=
  apart_drawnFrom (fun _ => bounds_of_mem_marks) 0

/-- What is drawn is the text with the folds replaced, cleaned. -/
theorem plain_draw_eq (v : View) (d : Document) :
    (v.draw d).plain = clean (d.text.replaceFrom 0 (folds (drawnFrom 0 (v.marks d)))) := by
  rw [plain_draw, ← piecesFrom_drawnFrom, written_piecesFrom (apart_drawn v d)]

/-- Under the styles of a drawing lies what the marks show. -/
theorem slice_styles_draw (v : View) (d : Document) :
    (v.draw d).styles.map (fun x => ((v.draw d).plain.slice x.1 x.2.1, x.2.2))
      = (drawnFrom 0 (v.marks d)).filterMap fun m => m.shown? d.text := by
  rw [slice_styles_draw_pieces, ← piecesFrom_drawnFrom, filterMap_styled?_piecesFrom (apart_drawn v d)]
  exact List.filterMap_congr fun m hm =>
    styled?_markPiece (bounds_of_mem_marks (mem_of_mem_drawnFrom hm)).2

/-- A mark that shows something has its style behind all that is drawn of the text before it. -/
theorem mem_styles_draw {before after : List Mark} {m : Mark} {y : Text × Style}
    (hm : drawnFrom 0 (v.marks d) = before ++ m :: after) (hshown : m.shown? d.text = some y) :
    let start := (clean (Text.replaceFrom (d.text.take m.start) 0 (folds before))).length
    (start, start + y.1.length, y.2) ∈ (v.draw d).styles := by
  have hmem : m ∈ drawnFrom 0 (v.marks d) := by
    rw [hm]
    exact List.mem_append_right _ List.mem_cons_self
  have happart := apart_drawn v d
  rw [hm] at happart
  rw [styles_draw, ← piecesFrom_drawnFrom, hm]
  exact mem_stylesFrom_piecesFrom happart (bounds_of_mem_marks (mem_of_mem_drawnFrom hmem)).2 hshown

/-- Without folds the text is drawn, cleaned. -/
theorem plain_draw_of_no_folded (hnone : v.folded = []) : (v.draw d).plain = clean d.text := by
  have hfaded : ∀ m ∈ drawnFrom 0 (v.marks d), m.isFolded = false := by
    intro m hm
    obtain ⟨r, ⟨hr, -⟩ | ⟨-, rfl⟩⟩ := exists_range_of_mem_marks (mem_of_mem_drawnFrom hm)
    · rw [hnone] at hr
      cases hr
    · rfl
  rw [plain_draw_eq, folds_eq_nil hfaded]
  rfl

/-- **A drawing loses nothing but folded stretches, whatever ranges it is given.** Some of the marks
of a view are drawn, and each of the others starts inside one of these. The drawn ones do not
overlap; the folded ones among them are replaced by a placeholder each and all else is kept, less
the characters that are dropped everywhere. In the order of the document each of them has its style
entry, unless it is faded and empty; the entry starts where the drawing of the text before the mark
ends. -/
theorem draw_loses_only_folds (v : View) (d : Document) :
    let g := v.draw d
    (∃ drawn passed : List Mark,
      (drawn ++ passed).Perm
          (v.folded.map (Mark.ofRange d true) ++ v.faded.map (Mark.ofRange d false)) ∧
        (∀ m ∈ drawn, m.start ≤ m.stop ∧ m.stop ≤ d.text.length) ∧
        drawn.Pairwise (fun m n => m.stop ≤ n.start) ∧
        (∀ m ∈ passed, ∃ n ∈ drawn, n.start ≤ m.start ∧ m.start < n.stop) ∧
        g.plain = clean (d.text.replaceFrom 0 (folds drawn)) ∧
        g.styles.Pairwise (fun x y => x.2.1 ≤ y.1) ∧
        (∀ x ∈ g.styles, x.1 ≤ x.2.1 ∧ x.2.1 ≤ g.plain.length) ∧
        g.styles.map (fun x => (g.plain.slice x.1 x.2.1, x.2.2))
          = (drawn.filterMap fun m => m.shown? d.text) ∧
        ∀ before m after y, drawn = before ++ m :: after → m.shown? d.text = some y →
          let start := (clean (Text.replaceFrom (d.text.take m.start) 0 (folds before))).length
          (start, start + y.1.length, y.2) ∈ g.styles) ∧
      (v.folded = [] → g.plain = clean d.text) := by
  intro g
  have hinside : ∀ m ∈ passedFrom 0 (v.marks d),
      ∃ n ∈ drawnFrom 0 (v.marks d), n.start ≤ m.start ∧ m.start < n.stop := by
    intro m hm
    -- nothing starts before the beginning of the text
    rcases exists_drawn_of_mem_passedFrom (pairwise_start_marks v d) hm with hlt | hinside
    · omega
    · exact hinside
  refine ⟨⟨drawnFrom 0 (v.marks d), passedFrom 0 (v.marks d), ?_, ?_, (apart_drawn v d).pairwise,
    hinside, plain_draw_eq v d, pairwise_styles_draw v d, ?_, slice_styles_draw v d, ?_⟩,
    plain_draw_of_no_folded⟩
  · exact (drawnFrom_append_passedFrom_perm 0 (v.marks d)).trans (marks_perm v d)
  · exact fun m hm => bounds_of_mem_marks (mem_of_mem_drawnFrom hm)
  · exact fun x hx => bounds_of_mem_styles_draw hx
  · exact fun before m after y hm hshown => mem_styles_draw hm hshown

/-- A faded range that reaches out of the document, over a bell and a carriage return that are
dropped. -/
theorem draw_loses_only_folds_out_of_document :
    let d : Document := ⟨"a\x07b\r\ncd", "html"⟩
    let v : View := { faded := [⟨⟨0, 1⟩, ⟨7, 4⟩, by decide⟩] }
    let g := v.draw d
    v.folded = [] ∧ g.plain = "ab\ncd" ∧ (1, 5, .dimmed) ∈ g.styles := by
  intro d v g
  have hnone : v.folded = [] := rfl
  obtain ⟨⟨drawn, passed, hperm, -, -, hpassed, -, -, -, -, hentries⟩, hplain⟩ :=
    draw_loses_only_folds v d
  have hmarks : drawn ++ passed = [⟨1, 7, false⟩] :=
    List.perm_singleton.mp (hperm.trans (List.Perm.of_eq (by decide)))
  refine ⟨hnone, by rw [hplain hnone]; decide, ?_⟩
  rcases List.append_eq_singleton_iff.mp hmarks with ⟨hdrawn, hpassedOver⟩ | ⟨hdrawn, -⟩
  · -- the mark is not passed over, for there is none in which it could start
    obtain ⟨n, hn, -⟩ := hpassed ⟨1, 7, false⟩ (by rw [hpassedOver]; exact List.mem_cons_self)
    rw [hdrawn] at hn
    cases hn
  · exact hentries [] ⟨1, 7, false⟩ [] ("b\ncd", .dimmed) hdrawn (by decide)

end View

end AttrFold
