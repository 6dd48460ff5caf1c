/-!
Positions in a document and the ranges between them. Positions are ordered by line first and by
character within a line; a range holds both of its ends.
-/

namespace AttrFold

/-- A zero-based line and character. Hosts may hand in coordinates outside every document, so both are
integers. -/
structure Position where
  line : Int
  character : Int
deriving DecidableEq

namespace Position

instance : LE Position :=
  ⟨fun p q => p.line < q.line ∨ p.line = q.line ∧ p.character ≤ q.character⟩

instance : LT Position :=
  ⟨fun p q => p.line < q.line ∨ p.line = q.line ∧ p.character < q.character⟩

theorem le_def {p q : Position} :
    p ≤ q ↔ p.line < q.line ∨ p.line = q.line ∧ p.character ≤ q.character := Iff.rfl

theorem lt_def {p q : Position} :
    p < q ↔ p.line < q.line ∨ p.line = q.line ∧ p.character < q.character := Iff.rfl

instance (p q : Position) : Decidable (p ≤ q) :=
  inferInstanceAs (Decidable (p.line < q.line ∨ p.line = q.line ∧ p.character ≤ q.character))

instance (p q : Position) : Decidable (p < q) :=
  inferInstanceAs (Decidable (p.line < q.line ∨ p.line = q.line ∧ p.character < q.character))

theorem le_refl (p : Position) : p ≤ p := by rw [le_def]; omega

theorem le_trans {p q r : Position} (hpq : p ≤ q) (hqr : q ≤ r) : p ≤ r := by
  rw [le_def] at *; omega

theorem not_le {p q : Position} : ¬p ≤ q ↔ q < p := by
  rw [le_def, lt_def]; omega

theorem le_of_lt {p q : Position} (h : p < q) : p ≤ q := by
  rw [le_def]; rw [lt_def] at h; omega

end Position

/-- A stretch of a document from `start` to `stop`, both included. -/
structure Range where
  start : Position
  stop : Position
  start_le_stop : start ≤ stop
deriving DecidableEq

namespace Range

/-- The range between two positions, when they are given in order. -/
def between? (start stop : Position) : Option Range :=
  if h : start ≤ stop then some ⟨start, stop, h⟩ else none

/-- The empty range at a position. -/
def point (p : Position) : Range := ⟨p, p, p.le_refl⟩

/-- Whether a position lies in a range, its ends included. -/
def Holds (r : Range) (p : Position) : Prop := r.start ≤ p ∧ p ≤ r.stop

instance (r : Range) (p : Position) : Decidable (r.Holds p) :=
  inferInstanceAs (Decidable (r.start ≤ p ∧ p ≤ r.stop))

/-- Whether a range lies in another one. -/
def Contains (r s : Range) : Prop := r.start ≤ s.start ∧ s.stop ≤ r.stop

instance (r s : Range) : Decidable (r.Contains s) :=
  inferInstanceAs (Decidable (r.start ≤ s.start ∧ s.stop ≤ r.stop))

end Range

/-- A selected range of an editor, with the cursor at its start when it is reversed and at its stop
otherwise. -/
structure Selection extends Range where
  isReversed : Bool
deriving DecidableEq

namespace Selection

/-- An empty selection. -/
def cursor (p : Position) : Selection := ⟨.point p, false⟩

/-- The selection that was drawn from `anchor` to `head`. -/
def drawn (anchor head : Position) : Selection :=
  if h : head < anchor then ⟨⟨head, anchor, Position.le_of_lt h⟩, true⟩
  else ⟨⟨anchor, head, Decidable.byContradiction fun hle => h (Position.not_le.1 hle)⟩, false⟩

end Selection

end AttrFold
