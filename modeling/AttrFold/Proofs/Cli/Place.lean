import AttrFold.Cli.Place
import AttrFold.Proofs.Text.Digit
import AttrFold.Proofs.Text.Search
import AttrFold.Proofs.Text.Trim

/-!
# Places and selections as they are typed

A position that is printed is read back, alone and as an end of a selection; of what else can be typed,
either a selection is read or the part that is no place is reported.

## The crux

`Position.IsTyped` and `Selection.IsTyped` are the grammar, and `Selection.Refuses` says which part
of a text is to blame. Every text falls under one of them (`isTyped_or_refuses`), and the reader
follows both (`ofText_of_isTyped`, `ofText_of_refuses`), so it accepts the grammar and nothing else.
That a cut at the first hyphen finds the two places rests on one fact: there is no hyphen in a place
(`Position.IsTyped.hyphen_not_mem`).

* **`Selection.ofText_eq_ok_iff`**, **`Selection.ofText_eq_error_iff`** — what is read, and what is
  reported.
* **`Selection.ofText_round_trip`** — printed positions are read back, and no other outcome is left.
-/

namespace AttrFold

/-! ## Places

The reader trims a text, cuts it at its first colon and takes both parts as numerals. It undoes the
constructor of `IsTyped` step by step, and each step has one outcome: a numeral holds no blank and
no colon. -/

namespace Position

/-- A position without negative coordinates, as the positions in documents are. -/
def Nonneg (p : Position) : Prop := 0 ≤ p.line ∧ 0 ≤ p.character

/-- The places that can be typed: a line and a column, both counted from one, with blanks around
them. -/
inductive IsTyped : Text → Position → Prop
  | place {before line column after : Text} {l c : Nat} (hbefore : ∀ b ∈ before, Text.isBlank b = true)
      (hline : line.Denotes (l + 1)) (hcolumn : column.Denotes (c + 1))
      (hafter : ∀ b ∈ after, Text.isBlank b = true) :
      IsTyped (before ++ (line ++ ':' :: column) ++ after) ⟨l, c⟩

variable {t : Text} {p : Position}

/-- No position that can be typed is negative. -/
theorem IsTyped.nonneg (h : IsTyped t p) : p.Nonneg := by
  cases h
  exact ⟨Int.natCast_nonneg _, Int.natCast_nonneg _⟩

theorem IsTyped.ne_nil (h : IsTyped t p) : t ≠ [] := by
  cases h
  simp

/-- A position is typed without a hyphen. -/
theorem IsTyped.hyphen_not_mem (h : IsTyped t p) : '-' ∉ t := by
  cases h with
  | place hbefore hline hcolumn hafter =>
    have hblank : ¬Text.isBlank '-' = true := by decide
    have hdigit : Text.digitValue? '-' = none := by decide
    intro hmem
    simp only [List.mem_append, List.mem_cons] at hmem
    rcases hmem with (hmem | hmem | hmem | hmem) | hmem
    · exact hblank (hbefore _ hmem)
    · exact hline.not_mem hdigit hmem
    · cases hmem
    · exact hcolumn.not_mem hdigit hmem
    · exact hblank (hafter _ hmem)

/-- A place begins and ends with a digit, so nothing of it is trimmed. -/
theorem bare_of_denotes {line column : Text} {l c : Nat} (hline : line.Denotes l)
    (hcolumn : column.Denotes c) : Text.Bare Text.isBlank (line ++ ':' :: column) := by
  refine ⟨fun d hd => ?_, fun d hd => ?_⟩
  · rw [List.head?_append_of_ne_nil _ hline.1] at hd
    exact hline.isBlank_eq_false (List.mem_of_head? hd)
  · rw [List.append_cons, List.getLast?_append_of_ne_nil _ hcolumn.1] at hd
    exact hcolumn.isBlank_eq_false (List.mem_of_getLast? hd)

/-- **The reader of places accepts those that can be typed and nothing else.** -/
theorem ofText_eq_ok_iff : ofText t = .ok p ↔ IsTyped t p := by
  unfold ofText
  constructor
  · intro h
    split at h
    · cases h
    · next line column hcut =>
      split at h
      · next l c hl hc =>
        cases h
        obtain ⟨before, after, ht, hbefore, hafter⟩ := Text.exists_eq_append_trimWhile Text.isBlank t
        have hcore : Text.trimWhile Text.isBlank t = line ++ ':' :: column :=
          (Text.cut?_eq_some_iff.mp hcut).1
        rw [ht, hcore]
        exact .place hbefore (Text.numeral?_eq_some_iff.mp hl) (Text.numeral?_eq_some_iff.mp hc) hafter
      · cases h
  · intro h
    cases h with
    | place hbefore hline hcolumn hafter =>
      next before line column after l c =>
      have hstrip : Text.strip (before ++ (line ++ ':' :: column) ++ after) = line ++ ':' :: column :=
        (bare_of_denotes hline hcolumn).trimWhile_append hbefore hafter
      have hcut : Text.cut? ':' (line ++ ':' :: column) = some (line, column) :=
        Text.cut?_eq_some_iff.mpr ⟨rfl, hline.not_mem (by decide)⟩
      rw [hstrip, hcut]
      simp only [Text.numeral?_eq_some_iff.mpr hline, Text.numeral?_eq_some_iff.mpr hcolumn]

/-- Digits of any script, zeros in front of them, and blanks around. -/
example : ofText " ٣:07\n" = .ok ⟨2, 6⟩ := by decide +kernel

/-- A text is refused as a whole exactly if it types no position. -/
theorem ofText_eq_error_iff {b : BadPlace} : ofText t = .error b ↔ b = ⟨t⟩ ∧ ∀ p, ¬IsTyped t p := by
  -- whichever step fails, the text is reported as it was given, with its blanks
  have hreport : ∀ b, ofText t = .error b → b = ⟨t⟩ := by
    intro b h
    unfold ofText at h
    split at h
    · cases h
      rfl
    · split at h
      · cases h
      · cases h
        rfl
  constructor
  · intro h
    refine ⟨hreport b h, fun p hp => ?_⟩
    rw [ofText_eq_ok_iff.mpr hp] at h
    cases h
  · intro ⟨hb, hnone⟩
    cases hread : ofText t with
    | error e => rw [hreport e hread, hb]
    | ok p => exact absurd (ofText_eq_ok_iff.mp hread) (hnone p)

/-- **A printed position can be typed.** -/
theorem Nonneg.isTyped_text (h : p.Nonneg) : IsTyped p.text p := by
  obtain ⟨line, character⟩ := p
  obtain ⟨l, rfl⟩ := Int.eq_ofNat_of_zero_le h.1
  obtain ⟨c, rfl⟩ := Int.eq_ofNat_of_zero_le h.2
  have htext : text ⟨(l : Int), (c : Int)⟩
      = [] ++ (Text.ofNat (l + 1) ++ ':' :: Text.ofNat (c + 1)) ++ [] := by
    rw [List.nil_append, List.append_nil, text, List.append_assoc]
    rfl
  rw [htext]
  exact .place (by simp) (Text.denotes_ofNat _) (Text.denotes_ofNat _) (by simp)

end Position

/-! ## Selections

Two places are put in order when a selection is drawn from one to the other, so the range between
its ends always exists, and the selection remembers which of them came first. -/

namespace Selection

section Drawn

variable {p q : Position}

theorem drawn_of_lt (h : q < p) : drawn p q = ⟨⟨q, p, Position.le_of_lt h⟩, true⟩ := dif_pos h

theorem drawn_of_le (h : p ≤ q) : drawn p q = ⟨⟨p, q, h⟩, false⟩ :=
  dif_neg fun hlt => Position.not_le.mpr hlt h

/-- What holds of both places holds of both ends. -/
theorem forall_ends_drawn {P : Position → Prop} (hp : P p) (hq : P q) :
    P (drawn p q).start ∧ P (drawn p q).stop := by
  unfold drawn
  split
  · exact ⟨hq, hp⟩
  · exact ⟨hp, hq⟩

end Drawn

/-- The selections that can be typed: a place, which a hyphen may follow, or two places with a
hyphen between them. -/
inductive IsTyped : Text → Selection → Prop
  | place {t : Text} {p : Position} (h : Position.IsTyped t p) : IsTyped t (.cursor p)
  | begun {t : Text} {p : Position} (h : Position.IsTyped t p) : IsTyped (t ++ ['-']) (.cursor p)
  | drawn {anchor head : Text} {p q : Position} (hanchor : Position.IsTyped anchor p)
      (hhead : Position.IsTyped head q) : IsTyped (anchor ++ '-' :: head) (.drawn p q)

/-- The second text is the part of the first one that is no place: what stands before the first
hyphen, or if this is a place, what stands after it. -/
inductive Refuses : Text → Text → Prop
  | alone {t : Text} (hfree : '-' ∉ t) (h : ∀ p, ¬Position.IsTyped t p) : Refuses t t
  | anchor {anchor head : Text} (hfree : '-' ∉ anchor) (h : ∀ p, ¬Position.IsTyped anchor p) :
      Refuses (anchor ++ '-' :: head) anchor
  | head {anchor head : Text} {p : Position} (hanchor : Position.IsTyped anchor p) (hne : head ≠ [])
      (h : ∀ q, ¬Position.IsTyped head q) : Refuses (anchor ++ '-' :: head) head

variable {t : Text} {s : Selection} {b : BadPlace}

/-- No end of a selection that can be typed is negative. -/
theorem IsTyped.nonneg (h : IsTyped t s) : s.start.Nonneg ∧ s.stop.Nonneg := by
  cases h with
  | place h => exact ⟨h.nonneg, h.nonneg⟩
  | begun h => exact ⟨h.nonneg, h.nonneg⟩
  | drawn hanchor hhead => exact forall_ends_drawn hanchor.nonneg hhead.nonneg

/-- Every text is a selection or has a part that is to blame. -/
theorem isTyped_or_refuses (t : Text) : (∃ s, IsTyped t s) ∨ ∃ u, Refuses t u := by
  by_cases hmem : '-' ∈ t
  · obtain ⟨anchor, head, rfl, hfree⟩ := List.eq_append_cons_of_mem hmem
    by_cases hanchor : ∃ p, Position.IsTyped anchor p
    · obtain ⟨p, hp⟩ := hanchor
      by_cases hne : head = []
      · -- nothing is read after a hyphen at the end
        subst hne
        exact .inl ⟨_, .begun hp⟩
      by_cases hhead : ∃ q, Position.IsTyped head q
      · obtain ⟨q, hq⟩ := hhead
        exact .inl ⟨_, .drawn hp hq⟩
      · exact .inr ⟨_, .head hp hne (not_exists.mp hhead)⟩
    · exact .inr ⟨_, .anchor hfree (not_exists.mp hanchor)⟩
  · by_cases hplace : ∃ p, Position.IsTyped t p
    · obtain ⟨p, hp⟩ := hplace
      exact .inl ⟨_, .place hp⟩
    · exact .inr ⟨_, .alone hmem (not_exists.mp hplace)⟩

/-! ### The reader

A text is cut at its first hyphen. Places have none, so the part before it is the first place as it
was typed, and the second part is not read at all when the first one is no place. -/

/-- Without a hyphen a text is read as a cursor. -/
theorem ofText_of_hyphen_not_mem (hfree : '-' ∉ t) :
    ofText t = (Position.ofText t).map .cursor := by
  unfold ofText
  rw [Text.cut?_eq_none_iff.mpr hfree]
  cases hplace : Position.ofText t <;> simp [hplace, Except.map]

/-- The first hyphen ends the anchor; with nothing behind it the anchor is a cursor. -/
theorem ofText_append_hyphen {anchor : Text} (hfree : '-' ∉ anchor) (head : Text) :
    ofText (anchor ++ '-' :: head) = (Position.ofText anchor).bind fun p =>
      if head.isEmpty then .ok (.cursor p) else (Position.ofText head).map (.drawn p) := by
  unfold ofText
  rw [Text.cut?_eq_some_iff.mpr ⟨rfl, hfree⟩]
  cases hanchor : Position.ofText anchor with
  | error e => simp [hanchor, Except.bind]
  | ok p => cases hhead : Position.ofText head <;> simp [hanchor, hhead, Except.bind, Except.map]

/-- A selection is read from each of the ways to type it. -/
theorem ofText_of_isTyped (h : IsTyped t s) : ofText t = .ok s := by
  cases h with
  | place h =>
    rw [ofText_of_hyphen_not_mem h.hyphen_not_mem, Position.ofText_eq_ok_iff.mpr h]
    rfl
  | begun h =>
    rw [ofText_append_hyphen h.hyphen_not_mem, Position.ofText_eq_ok_iff.mpr h]
    rfl
  | drawn hanchor hhead =>
    rw [ofText_append_hyphen hanchor.hyphen_not_mem, Position.ofText_eq_ok_iff.mpr hanchor,
      Position.ofText_eq_ok_iff.mpr hhead, List.isEmpty_eq_false_iff.mpr hhead.ne_nil]
    rfl

/-- A text that is refused is refused for its first part that types no position. -/
theorem ofText_of_refuses {u : Text} (h : Refuses t u) : ofText t = .error ⟨u⟩ := by
  cases h with
  | alone hfree h =>
    rw [ofText_of_hyphen_not_mem hfree, Position.ofText_eq_error_iff.mpr ⟨rfl, h⟩]
    rfl
  | anchor hfree h =>
    rw [ofText_append_hyphen hfree, Position.ofText_eq_error_iff.mpr ⟨rfl, h⟩]
    rfl
  | head hanchor hne h =>
    rw [ofText_append_hyphen hanchor.hyphen_not_mem, Position.ofText_eq_ok_iff.mpr hanchor,
      Position.ofText_eq_error_iff.mpr ⟨rfl, h⟩, List.isEmpty_eq_false_iff.mpr hne]
    rfl

/-- **The reader accepts the selections that can be typed and nothing else.** -/
theorem ofText_eq_ok_iff : ofText t = .ok s ↔ IsTyped t s := by
  refine ⟨fun h => ?_, ofText_of_isTyped⟩
  rcases isTyped_or_refuses t with ⟨s', hs⟩ | ⟨u, hu⟩
  · rw [ofText_of_isTyped hs] at h
    cases h
    exact hs
  · rw [ofText_of_refuses hu] at h
    cases h

/-- **It reports the part that is to blame.** -/
theorem ofText_eq_error_iff : ofText t = .error b ↔ Refuses t b.given := by
  refine ⟨fun h => ?_, ofText_of_refuses⟩
  rcases isTyped_or_refuses t with ⟨s, hs⟩ | ⟨u, hu⟩
  · rw [ofText_of_isTyped hs] at h
    cases h
  · rw [ofText_of_refuses hu] at h
    cases h
    exact hu

/-- **Printed positions are read back.** One position is read as a cursor, and two with a hyphen
between them as the selection from the smaller one to the larger one, which is reversed exactly if
the larger one came first. For any other text there are two outcomes: a selection whose ends are in
order, so that the range between them exists, and have no negative coordinates, or a report of the
part that is no place. -/
theorem ofText_round_trip :
    (∀ p : Position, p.Nonneg → Position.ofText p.text = .ok p ∧ ofText p.text = .ok (.cursor p)) ∧
    (∀ p q : Position, p.Nonneg → q.Nonneg →
      ∃ s, ofText (p.text ++ ['-'] ++ q.text) = .ok s ∧ (s.isReversed = true ↔ q < p) ∧
        (q < p → s.start = q ∧ s.stop = p) ∧ (p ≤ q → s.start = p ∧ s.stop = q)) ∧
    ∀ t : Text,
      (∃ s, ofText t = .ok s ∧ IsTyped t s ∧ s.start ≤ s.stop
        ∧ Range.between? s.start s.stop = some s.toRange ∧ s.start.Nonneg ∧ s.stop.Nonneg) ∨
      ∃ b, ofText t = .error b ∧ Refuses t b.given := by
  refine ⟨fun p hp => ⟨?_, ?_⟩, fun p q hp hq => ?_, fun t => ?_⟩
  · exact Position.ofText_eq_ok_iff.mpr hp.isTyped_text
  · exact ofText_of_isTyped (.place hp.isTyped_text)
  · have hread : ofText (p.text ++ ['-'] ++ q.text) = .ok (.drawn p q) := by
      rw [List.append_assoc]
      exact ofText_of_isTyped (.drawn hp.isTyped_text hq.isTyped_text)
    refine ⟨.drawn p q, hread, ?_⟩
    by_cases hlt : q < p
    · rw [drawn_of_lt hlt]
      exact ⟨iff_of_true rfl hlt, fun _ => ⟨rfl, rfl⟩, fun hle => absurd hle (Position.not_le.mpr hlt)⟩
    · have hle : p ≤ q := Decidable.byContradiction fun h => hlt (Position.not_le.mp h)
      rw [drawn_of_le hle]
      exact ⟨iff_of_false Bool.false_ne_true hlt, fun h => absurd h hlt, fun _ => ⟨rfl, rfl⟩⟩
  · rcases isTyped_or_refuses t with ⟨s, hs⟩ | ⟨u, hu⟩
    · exact .inl ⟨s, ofText_of_isTyped hs, hs, s.start_le_stop, dif_pos s.start_le_stop, hs.nonneg⟩
    · exact .inr ⟨⟨u⟩, ofText_of_refuses hu, hu⟩

/-- A selection that was drawn upwards. -/
theorem ofText_round_trip_reversed :
    let p : Position := ⟨2, 0⟩
    let q : Position := ⟨0, 0⟩
    p.Nonneg ∧ q.Nonneg ∧ p.text ++ ['-'] ++ q.text = "3:1-1:1".toList ∧
      ∃ s, ofText "3:1-1:1" = .ok s ∧ s.isReversed = true ∧ s.start = q ∧ s.stop = p := by
  intro p q
  have hp : p.Nonneg := ⟨by decide, by decide⟩
  have hq : q.Nonneg := ⟨by decide, by decide⟩
  have htext : p.text ++ ['-'] ++ q.text = "3:1-1:1".toList := by decide +kernel
  have hlt : q < p := by decide
  obtain ⟨-, hpair, -⟩ := ofText_round_trip
  obtain ⟨s, hread, hreversed, hends, -⟩ := hpair p q hp hq
  rw [htext] at hread
  exact ⟨hp, hq, htext, s, hread, hreversed.mpr hlt, hends hlt⟩

end Selection

end AttrFold
