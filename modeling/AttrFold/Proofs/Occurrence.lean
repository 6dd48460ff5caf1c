import AttrFold.Proofs.Attribute.Choice

/-!
# The attributes of a text

The scan of a text as a run (`Occurrence.Scan`): at each offset it visits, it either reads an attribute
and goes on after it, or passes one character. What a step keeps is carried along the run by induction.

* **`all_sound_ordered_complete`** — what the scan gives are attributes of the text, in order and apart
  from one another, and no attribute starts outside of them.
* **`chosen_iff_eq_found`** — each is the one that the rules of choice single out at its offset.
-/

namespace AttrFold.Occurrence

open Attribute (read?)

/-- The offset just after an occurrence. -/
def stop (m : Occurrence) : Nat := m.offset + m.found.text.length

/-- Whether an offset lies within an occurrence. -/
def Covers (m : Occurrence) (o : Nat) : Prop := m.offset ≤ o ∧ o < m.stop

/-! ## The run of the scan

`allFrom` recurses on what is left of the text. As a run it goes from offset to offset of one text, so
that what it finds can be compared with attributes that stand anywhere in it. -/

/-- A scan of a text from an offset to its end, with what it finds. -/
inductive Scan (t : Text) : Nat → List Occurrence → Prop where
  | done {o : Nat} (hend : t.length ≤ o) : Scan t o []
  | pass {o : Nat} {ms : List Occurrence} (hnone : read? (t.drop o) = none)
      (rest : Scan t (o + 1) ms) : Scan t o ms
  | find {o : Nat} {a : Attribute} {ms : List Occurrence} (hread : read? (t.drop o) = some a)
      (rest : Scan t (o + a.text.length) ms) : Scan t o (⟨o, a⟩ :: ms)

/-- An attribute has characters. -/
theorem text_length_pos_of_read? {t : Text} {a : Attribute} (h : read? t = some a) :
    0 < a.text.length := by
  obtain ⟨hwf, -⟩ := Attribute.wellFormed_of_read? h
  have hhead := hwf.head
  unfold Attribute.text Attribute.lead
  generalize a.head = head at hhead ⊢
  cases hhead <;> simp

/-- The pass over a text from an offset follows the rules of a scan. -/
theorem scan_allFrom (t : Text) (o : Nat) : Scan t o (allFrom o (t.drop o)) := by
  cases hdrop : t.drop o with
  | nil =>
    rw [allFrom]
    exact .done (List.drop_eq_nil_iff.mp hdrop)
  | cons c cs =>
    have hlt : o < t.length := by
      have := congrArg List.length hdrop
      simp only [List.length_drop, List.length_cons] at this
      omega
    have hcs : cs = t.drop (o + 1) := by
      rw [← List.drop_drop, hdrop]
      rfl
    rw [allFrom]
    cases hread : read? (c :: cs) with
    | none =>
      subst hcs
      exact .pass (by rw [hdrop, hread]) (scan_allFrom t (o + 1))
    | some a =>
      have hpos := text_length_pos_of_read? hread
      -- the run goes on after the attribute, of which one character is already gone
      have hrest : cs.drop (a.text.length - 1) = t.drop (o + a.text.length) := by
        rw [hcs, List.drop_drop, show o + 1 + (a.text.length - 1) = o + a.text.length from by omega]
      show Scan t o (⟨o, a⟩ :: allFrom (o + a.text.length) (cs.drop (a.text.length - 1)))
      rw [hrest]
      exact .find (by rw [hdrop, hread]) (scan_allFrom t (o + a.text.length))
  termination_by t.length - o

theorem scan_all (t : Text) : Scan t 0 (all t) := scan_allFrom t 0

/-! ## What a run keeps

Each by induction on the run, with one case for each kind of step. -/

namespace Scan

variable {t : Text} {o : Nat} {ms : List Occurrence}

theorem le_offset (h : Scan t o ms) : ∀ m ∈ ms, o ≤ m.offset := by
  induction h with
  | done _ => exact nofun
  | pass _ _ ih => exact fun m hm => Nat.le_of_succ_le (ih m hm)
  | find _ _ ih =>
    intro m hm
    rcases List.mem_cons.mp hm with rfl | hm
    · exact Nat.le_refl _
    · exact Nat.le_trans (Nat.le_add_right _ _) (ih m hm)

/-- What a scan finds is what is read at its offset. -/
theorem read?_offset (h : Scan t o ms) : ∀ m ∈ ms, read? (t.drop m.offset) = some m.found := by
  induction h with
  | done _ => exact nofun
  | pass _ _ ih => exact ih
  | find hread _ ih => exact List.forall_mem_cons.mpr ⟨hread, ih⟩

/-- What a scan finds does not overlap and is in order. -/
theorem pairwise (h : Scan t o ms) : ms.Pairwise fun m n => m.stop ≤ n.offset := by
  induction h with
  | done _ => exact .nil
  | pass _ _ ih => exact ih
  | find _ rest ih => exact .cons rest.le_offset ih

/-- Wherever an attribute can be read, the run has found one there or is still within one. -/
theorem exists_covers (h : Scan t o ms) {k : Nat} (hk : o ≤ k) (hread : read? (t.drop k) ≠ none) :
    ∃ m ∈ ms, m.Covers k := by
  induction h with
  | done hend =>
    rw [List.drop_of_length_le (Nat.le_trans hend hk)] at hread
    exact absurd rfl hread
  | @pass o ms hnone rest ih =>
    refine ih (Nat.lt_of_le_of_ne hk ?_)
    rintro rfl
    exact hread hnone
  | @find o a ms hfound rest ih =>
    by_cases hin : k < o + a.text.length
    · -- within the attribute that was just read
      exact ⟨⟨o, a⟩, List.mem_cons_self, hk, hin⟩
    · obtain ⟨m, hm, hcovers⟩ := ih (Nat.le_of_not_lt hin)
      exact ⟨m, List.mem_cons_of_mem _ hm, hcovers⟩

end Scan

/-! ## The whole text -/

theorem read?_of_mem_all {t : Text} {m : Occurrence} (hm : m ∈ all t) :
    read? (t.drop m.offset) = some m.found :=
  (scan_all t).read?_offset m hm

/-- Each occurrence is an attribute of the grammar, and it stands at its offset. -/
theorem wellFormed_of_mem_all {t : Text} {m : Occurrence} (hm : m ∈ all t) :
    m.found.WellFormed ∧ m.found.text <+: t.drop m.offset :=
  Attribute.wellFormed_of_read? (read?_of_mem_all hm)

theorem pairwise_all (t : Text) : (all t).Pairwise fun m n => m.stop ≤ n.offset :=
  (scan_all t).pairwise

/-- **The scan is sound, ordered and complete.** -/
theorem all_sound_ordered_complete (t : Text) :
    (∀ m ∈ all t, m.found.WellFormed ∧ t.slice m.offset m.stop = m.found.text) ∧
      (all t).Pairwise (fun m n => m.stop ≤ n.offset) ∧
      ∀ o, (∀ m ∈ all t, ¬m.Covers o) → ∀ a : Attribute, a.WellFormed → ¬a.text <+: t.drop o := by
  refine ⟨fun m hm => ?_, pairwise_all t, fun o ho => ?_⟩
  · obtain ⟨hwf, hstands⟩ := wellFormed_of_mem_all hm
    exact ⟨hwf, Text.slice_of_prefix_drop hstands⟩
  · refine Attribute.read?_eq_none_iff.mp (Decidable.byContradiction fun hread => ?_)
    obtain ⟨m, hm, hcovers⟩ := (scan_all t).exists_covers (Nat.zero_le o) hread
    exact ho m hm hcovers

/-- **Each occurrence is the choice of the rules at its offset, and the only one.** -/
theorem chosen_iff_eq_found {t : Text} {m : Occurrence} (hm : m ∈ all t) (a : Attribute) :
    a.Chosen (t.drop m.offset) ↔ a = m.found := by
  rw [← Attribute.read?_eq_some_iff_chosen, read?_of_mem_all hm, Option.some_inj, eq_comm]

/-- The blank after the first colon goes to the opening, which recurs after the second colon. -/
theorem chosen_iff_eq_found_blank_opening :
    let t : Text := "class: 'a', id: 'b'"
    let m : Occurrence :=
      ⟨0, ⟨"class", [':'], [' ', '\''], "a', id:", [' ', '\''], .quotedContent⟩⟩
    m ∈ all t ∧ ∀ a : Attribute, a.Chosen (t.drop m.offset) ↔ a = m.found := by
  intro t m
  have hm : m ∈ all t := by decide +kernel
  exact ⟨hm, chosen_iff_eq_found hm⟩

end AttrFold.Occurrence
