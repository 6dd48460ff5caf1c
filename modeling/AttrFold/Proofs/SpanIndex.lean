import AttrFold.Classification
import AttrFold.Proofs.Entries

/-!
# The texts behind positions

An index holds each recorded key once, where it was first recorded, with the text that was recorded
last. A key compares lines first and columns only on its own first and last line; that is the order
of positions by line and character (`SpanKey.covers_iff`), also for keys whose ends are not in
order, which cover nothing.

* **`SpanIndex.lookup_recorded`** — what an index holds and what is found in it, after any texts
  were recorded under any keys.
-/

namespace AttrFold

namespace SpanKey

/-- Whether a position lies between the ends of a key, both included. -/
def Holds (k : SpanKey) (p : Position) : Prop :=
  (⟨k.startLine, k.startCharacter⟩ : Position) ≤ p ∧ p ≤ ⟨k.stopLine, k.stopCharacter⟩

instance (k : SpanKey) (p : Position) : Decidable (k.Holds p) :=
  inferInstanceAs (Decidable (_ ∧ _))

/-- **A key covers the positions between its ends**, also when these are not in order. -/
theorem covers_iff (k : SpanKey) (p : Position) : k.covers p = true ↔ k.Holds p := by
  rw [Holds, Position.le_def, Position.le_def]
  simp only [covers, Bool.or_eq_true, Bool.and_eq_true, decide_eq_true_eq]
  split_ifs <;> simp only [false_iff, true_iff] <;> omega

/-- A key covers the positions that its range holds. -/
theorem covers_ofRange (r : Range) (p : Position) : (ofRange r).covers p = decide (r.Holds p) := by
  rw [Bool.eq_iff_iff, covers_iff, decide_eq_true_eq]
  rfl

end SpanKey

namespace SpanIndex

variable {index : SpanIndex} {p : Position} {t : Text}

/-- The entry that is found is the first one at the position. -/
theorem lookup_eq_some_iff : index.lookup p = some t ↔
    ∃ before k after, index = before ++ (k, t) :: after ∧ k.Holds p ∧ ∀ e ∈ before, ¬e.1.Holds p := by
  unfold lookup
  rw [Option.map_eq_some_iff]
  refine ⟨fun h => ?_, fun h => ?_⟩
  · obtain ⟨⟨k, u⟩, hfind, rfl⟩ := h
    obtain ⟨hcovers, before, after, hsplit, hbefore⟩ := List.find?_eq_some_iff_append.mp hfind
    refine ⟨before, k, after, hsplit, (k.covers_iff p).mp hcovers, fun e he hholds => ?_⟩
    have hnot := hbefore e he
    rw [(e.1.covers_iff p).mpr hholds] at hnot
    cases hnot
  · obtain ⟨before, k, after, hsplit, hholds, hbefore⟩ := h
    refine ⟨(k, t), List.find?_eq_some_iff_append.mpr ?_, rfl⟩
    refine ⟨(k.covers_iff p).mpr hholds, before, after, hsplit, fun e he => ?_⟩
    rw [Bool.not_eq_true', Bool.eq_false_iff]
    exact fun hcovers => hbefore e he ((e.1.covers_iff p).mp hcovers)

/-- Nothing is found only where no key holds the position. -/
theorem lookup_eq_none_iff : index.lookup p = none ↔ ∀ k ∈ Entries.keys index, ¬k.Holds p := by
  unfold lookup Entries.keys
  rw [Option.map_eq_none_iff, List.find?_eq_none, List.forall_mem_map]
  refine forall₂_congr fun e _ => ?_
  rw [SpanKey.covers_iff]

/-- **A look-up agrees with the order of positions, whatever was recorded.** An index holds each
recorded key once, in the order in which they were first recorded, with the text recorded last under
it. A look-up yields the text of the first key in that order that holds the position, and nothing
exactly if no recorded key holds it. A key that is made of a range holds what the range holds. -/
theorem lookup_recorded (calls : List (SpanKey × Text)) :
    let index : SpanIndex := calls.foldl (fun index call => index.put call.1 call.2) []
    Entries.keys index = (Entries.keys calls).eraseDups ∧ (Entries.keys index).Nodup ∧
      (∀ k, index.get? k = (calls.filter fun call => call.1 = k).getLast?.map Prod.snd) ∧
      (∀ p t, index.lookup p = some t ↔ ∃ before k after,
        index = before ++ (k, t) :: after ∧ k.Holds p ∧ ∀ e ∈ before, ¬e.1.Holds p) ∧
      (∀ p, index.lookup p = none ↔ ∀ call ∈ calls, ¬call.1.Holds p) ∧
      ∀ (r : Range) p, (SpanKey.ofRange r).Holds p ↔ r.Holds p := by
  intro index
  have hindex : index = Entries.ofPairs calls := rfl
  have hkeys : Entries.keys index = (Entries.keys calls).eraseDups :=
    hindex ▸ Entries.keys_ofPairs calls
  refine ⟨hkeys, hindex ▸ Entries.nodup_keys_ofPairs, fun k => hindex ▸ Entries.get?_ofPairs k calls,
    fun p t => lookup_eq_some_iff, fun p => ?_, fun r p => Iff.rfl⟩
  rw [lookup_eq_none_iff, hkeys]
  simp only [List.mem_eraseDups]
  exact List.forall_mem_map

/-- The first key spans three lines and is recorded a second time; the second one is not in order. -/
example :
    let first : SpanKey := ⟨0, 5, 2, 1⟩
    let index : SpanIndex := Entries.ofPairs [(first, "a"), (⟨3, 4, 1, 0⟩, "b"),
      (⟨1, 2, 1, 2⟩, "c"), (first, "d")]
    index.lookup ⟨1, 2⟩ = some "d" ∧ index.lookup ⟨2, 2⟩ = none := by
  decide

end SpanIndex

end AttrFold
