import AttrFold.Text.Basic
import AttrFold.Position

/-!
Documents and their lines. A line ends after a line feed; carriage returns before it belong to the
line but not to its content. The table of line starts turns an offset into a position and back, and
the first of these keeps the order of offsets (`Document.positionAt_le`).
-/

namespace AttrFold

/-- A text in a markup or script language, which is known by its identifier. -/
structure Document where
  text : Text
  language : Text
deriving DecidableEq

namespace Text

/-- The offsets just after each line feed of a text that begins at offset `start`. -/
def lineStartsAfter (start : Nat) : Text → List Nat
  | [] => []
  | c :: cs =>
    if c = '\n' then (start + 1) :: lineStartsAfter (start + 1) cs
    else lineStartsAfter (start + 1) cs

/-- The offsets at which the lines of a text start. -/
def lineStarts (t : Text) : List Nat := 0 :: lineStartsAfter 0 t

end Text

namespace Document

/-- The offsets at which the lines of the document start. -/
def lineStarts (d : Document) : List Nat := d.text.lineStarts

/-- The nearest offset of the document to an integer. -/
def clamp (d : Document) (offset : Int) : Nat := min offset.toNat d.text.length

/-- The number of the line that an offset of the document lies on: as many lines start after the
first one and not after the offset. -/
def lineOf (d : Document) (offset : Nat) : Nat := d.lineStarts.tail.countP (· ≤ offset)

/-- The position of an offset; offsets outside the document count as its nearest end. -/
def positionAt (d : Document) (offset : Int) : Position :=
  let o := d.clamp offset
  let line := d.lineOf o
  ⟨line, ((o - d.lineStarts.getD line 0 : Nat) : Int)⟩

/-- The entry of the table of line starts under an index; negative indices count from its end. -/
def lineStart? (d : Document) (line : Int) : Option Nat :=
  if 0 ≤ line then d.lineStarts[line.toNat]?
  else if 0 ≤ line + d.lineStarts.length then d.lineStarts[(line + d.lineStarts.length).toNat]?
  else none

/-- The content of a line without the line feed and the carriage returns at its end. A negative
number counts from the end of the table of line starts, in which the line then also ends: the last
line has no entry after it but the first, so `-1` gives the empty text. -/
def lineAt? (d : Document) (line : Int) : Option Text :=
  (d.lineStart? line).map fun start =>
    let stop :=
      if line + 1 < d.lineStarts.length then (d.lineStart? (line + 1)).getD 0 else d.text.length
    (d.text.slice start stop).dropEndWhile fun c => c = '\n' || c = '\r'

/-- The offset of a position. Lines before the document count as its start, lines after it as its
end, and a character outside a line's content as the nearest end of that content. -/
def offsetAt (d : Document) (p : Position) : Nat :=
  if p.line < 0 then 0
  else match d.lineStarts[p.line.toNat]? with
    | none => d.text.length
    | some start => start + min p.character.toNat ((d.lineAt? p.line).getD []).length

/-- A later offset is on a later line, or on the same. -/
theorem lineOf_le (d : Document) {a b : Nat} (h : a ≤ b) : d.lineOf a ≤ d.lineOf b :=
  List.countP_mono_left fun x _ hx => by simp only [decide_eq_true_eq] at *; omega

/-- A later offset has a later position, or the same. -/
theorem positionAt_le (d : Document) {a b : Int} (h : a ≤ b) : d.positionAt a ≤ d.positionAt b := by
  have hc : d.clamp a ≤ d.clamp b := by unfold clamp; omega
  have hl := d.lineOf_le hc
  rw [Position.le_def]
  simp only [positionAt]
  rcases Nat.lt_or_eq_of_le hl with hl | hl
  · exact Or.inl (by omega)
  · exact Or.inr ⟨by omega, by rw [hl]; omega⟩

/-- The range from offset `start` over `length` characters. -/
def rangeAt (d : Document) (start length : Nat) : Range :=
  ⟨d.positionAt start, d.positionAt (start + length : Nat), d.positionAt_le (by omega)⟩

end Document

end AttrFold
