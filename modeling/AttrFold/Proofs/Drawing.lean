import AttrFold.View

/-!
# Pieces of a drawing

What a run of appended pieces leaves in a drawing: its text is that of the pieces without the dropped
characters (`plain_foldl_append`), and its style entries are those of the pieces at the places where
they came to stand (`styles_foldl_append`). Under each entry lies the text of its piece
(`slice_stylesFrom`).
-/

namespace AttrFold

namespace Drawing

/-! ## Dropped characters -/

/-- A text without characters that are dropped is drawn as it is. -/
theorem clean_eq_self {t : Text} (h : ∀ c ∈ t, isDropped c = false) : clean t = t := by
  refine List.filter_eq_self.mpr fun c hc => ?_
  rw [h c hc]
  rfl

theorem clean_append (s t : Text) : clean (s ++ t) = clean s ++ clean t := List.filter_append s t

theorem clean_placeholder : clean placeholder = placeholder := by decide

/-! ## Appended pieces -/

/-- The text of pieces as it is drawn. -/
def written (ps : List Piece) : Text := ps.flatMap fun p => clean p.text

theorem written_cons (p : Piece) (ps : List Piece) : written (p :: ps) = clean p.text ++ written ps :=
  rfl

/-- The style entry of a piece that is appended at an offset. -/
def entryAt? (start : Nat) (p : Piece) : Option (Nat × Nat × Style) :=
  if p.text.isEmpty then none
  else p.style.map fun s => (start, start + (clean p.text).length, s)

/-- The style entries of pieces that are appended one after the other. -/
def stylesFrom (start : Nat) : List Piece → List (Nat × Nat × Style)
  | [] => []
  | p :: ps => (entryAt? start p).toList ++ stylesFrom (start + (clean p.text).length) ps

/-- Appending a piece adds what is drawn of its text. -/
theorem plain_append (g : Drawing) (p : Piece) : (g.append p).plain = g.plain ++ clean p.text := by
  unfold append
  split
  · next h => rw [List.isEmpty_iff.mp h, show clean [] = [] from rfl, List.append_nil]
  · rfl

/-- Appending a piece adds its style at the place that the drawing has reached. -/
theorem styles_append (g : Drawing) (p : Piece) :
    (g.append p).styles = g.styles ++ (entryAt? g.plain.length p).toList := by
  unfold append entryAt?
  split
  · simp
  · cases p.style <;> simp

/-- Appending pieces adds what is written of them, one after the other. -/
theorem plain_foldl_append (ps : List Piece) (g : Drawing) :
    (ps.foldl append g).plain = g.plain ++ written ps := by
  induction ps generalizing g with
  | nil => exact (List.append_nil _).symm
  | cons p ps ih =>
    rw [List.foldl_cons, ih, plain_append, List.append_assoc, written_cons]

/-- Appending pieces adds their styles, each at the place that its piece has. -/
theorem styles_foldl_append (ps : List Piece) (g : Drawing) :
    (ps.foldl append g).styles = g.styles ++ stylesFrom g.plain.length ps := by
  induction ps generalizing g with
  | nil => exact (List.append_nil _).symm
  | cons p ps ih =>
    rw [List.foldl_cons, ih, plain_append, styles_append, List.length_append, List.append_assoc]
    rfl

/-! ## Style entries -/

/-- The style entry of a piece is as long as what is drawn of it. -/
theorem bounds_of_entryAt? {p : Piece} {start : Nat} {x : Nat × Nat × Style}
    (h : entryAt? start p = some x) : x.1 = start ∧ x.2.1 = start + (clean p.text).length := by
  unfold entryAt? at h
  split at h
  · cases h
  · obtain ⟨s, -, rfl⟩ := Option.map_eq_some_iff.mp h
    exact ⟨rfl, rfl⟩

/-- The style entries of a run of pieces lie within its text. -/
theorem bounds_of_mem_stylesFrom {ps : List Piece} {start : Nat} {x : Nat × Nat × Style}
    (hx : x ∈ stylesFrom start ps) :
    start ≤ x.1 ∧ x.1 ≤ x.2.1 ∧ x.2.1 ≤ start + (written ps).length := by
  induction ps generalizing start with
  | nil => cases hx
  | cons p ps ih =>
    have hlen : (written (p :: ps)).length = (clean p.text).length + (written ps).length := by
      rw [written_cons, List.length_append]
    rcases List.mem_append.mp hx with hx | hx
    · have := bounds_of_entryAt? (Option.mem_toList.mp hx)
      omega
    · have := ih hx
      omega

/-- The styles of pieces do not overlap and are in order. -/
theorem pairwise_stylesFrom (ps : List Piece) (start : Nat) :
    (stylesFrom start ps).Pairwise fun x y => x.2.1 ≤ y.1 := by
  induction ps generalizing start with
  | nil => exact .nil
  | cons p ps ih =>
    refine List.pairwise_append.mpr ⟨?_, ih _, fun x hx y hy => ?_⟩
    · cases entryAt? start p with
      | none => exact .nil
      | some x => exact List.pairwise_singleton _ _
    · have hstop := (bounds_of_entryAt? (Option.mem_toList.mp hx)).2
      have hstart := (bounds_of_mem_stylesFrom hy).1
      omega

/-- The styles of later pieces begin where the earlier pieces end. -/
theorem stylesFrom_append (ps qs : List Piece) (start : Nat) : stylesFrom start (ps ++ qs)
    = stylesFrom start ps ++ stylesFrom (start + (written ps).length) qs := by
  induction ps generalizing start with
  | nil => rfl
  | cons p ps ih =>
    rw [List.cons_append, stylesFrom, stylesFrom, ih, written_cons, List.length_append, Nat.add_assoc,
      List.append_assoc]

/-- What a piece shows in a style, if it shows anything. -/
def styled? (p : Piece) : Option (Text × Style) :=
  if p.text.isEmpty then none else p.style.map fun s => (clean p.text, s)

/-- A piece has an entry exactly if it is styled, and the entry covers what is drawn of it. -/
theorem entryAt?_eq (start : Nat) (p : Piece) :
    entryAt? start p = (styled? p).map fun y => (start, start + y.1.length, y.2) := by
  unfold entryAt? styled?
  split
  · rfl
  · rw [Option.map_map]
    rfl

/-- Under the style entries of a run of pieces lie the texts of the pieces, in their order. -/
theorem slice_stylesFrom (ps : List Piece) (before after : Text) :
    (stylesFrom before.length ps).map
        (fun x => ((before ++ written ps ++ after).slice x.1 x.2.1, x.2.2))
      = ps.filterMap styled? := by
  induction ps generalizing before with
  | nil => rfl
  | cons p ps ih =>
    have hsplit : before ++ written (p :: ps) ++ after
        = (before ++ clean p.text) ++ written ps ++ after := by
      rw [written_cons, ← List.append_assoc]
    have hrest := ih (before ++ clean p.text)
    rw [List.length_append] at hrest
    unfold stylesFrom
    rw [List.map_append, hsplit, hrest]
    unfold entryAt?
    by_cases hempty : p.text.isEmpty
    · simp [styled?, hempty]
    · cases hstyle : p.style with
      | none => simp [styled?, hstyle]
      | some s =>
        have hslice : ((before ++ clean p.text) ++ written ps ++ after).slice before.length
            (before.length + (clean p.text).length) = clean p.text := by
          unfold Text.slice
          rw [Nat.add_sub_cancel_left, List.append_assoc, List.append_assoc, List.drop_left,
            List.take_left]
        simp [styled?, hempty, hstyle, hslice, -List.append_assoc]

end Drawing

end AttrFold
