import AttrFold.Document.Basic

/-!
Drawing a document with its decorations: a folded range becomes a placeholder, a faded one is dimmed
and everything else stays as it is. Ranges are drawn in the order of their places in the document, and
one that starts inside an earlier one is passed over.
-/

namespace AttrFold

/-- The ranges to decorate, and how often they were set. -/
structure View where
  unfolded : List Range := []
  faded : List Range := []
  folded : List Range := []
  draws : Nat := 0
deriving DecidableEq

namespace View

/-- Sets the ranges to decorate. -/
def decorate (v : View) (unfolded faded folded : List Range) : View :=
  ⟨unfolded, faded, folded, v.draws + 1⟩

end View

/-- The style of a decorated piece of a drawing. -/
inductive Style where
  | placeholder
  | dimmed
deriving DecidableEq

/-- A decoration between two offsets of a document. -/
structure Mark where
  start : Nat
  stop : Nat
  isFolded : Bool
deriving DecidableEq

namespace Mark

/-- The order in which marks are drawn: by start, then by stop, and of two marks with the same ends
the faded one first. -/
def le (a b : Mark) : Bool :=
  a.start < b.start || (a.start = b.start
    && (a.stop < b.stop || (a.stop = b.stop && (!a.isFolded || b.isFolded))))

/-- The mark of a range in a document. -/
def ofRange (d : Document) (isFolded : Bool) (r : Range) : Mark :=
  ⟨d.offsetAt r.start, d.offsetAt r.stop, isFolded⟩

end Mark

/-- A part of a drawing in one style. -/
structure Piece where
  text : Text
  style : Option Style
deriving DecidableEq

/-- A drawing: its text, and the styles of parts of it from one offset up to another. -/
structure Drawing where
  plain : Text := []
  styles : List (Nat × Nat × Style) := []
deriving DecidableEq

namespace Drawing

/-- The text that stands in the place of a folded range. -/
def placeholder : Text := ['…']

/-- Whether a character is dropped wherever text is drawn or printed: the bell, the backspace, the
vertical tab, the form feed and the carriage return. -/
def isDropped (c : Char) : Bool :=
  c.toNat = 7 || c.toNat = 8 || c.toNat = 11 || c.toNat = 12 || c.toNat = 13

/-- A text without the characters that are dropped. -/
def clean (t : Text) : Text := t.filter fun c => !isDropped c

/-- Adds a piece at the end. An empty piece adds nothing; a piece of dropped characters only still
adds its style. -/
def append (d : Drawing) (p : Piece) : Drawing :=
  if p.text.isEmpty then d
  else
    let added := clean p.text
    ⟨d.plain ++ added, match p.style with
      | some s => d.styles ++ [(d.plain.length, d.plain.length + added.length, s)]
      | none => d.styles⟩

end Drawing

namespace View

/-- The marks of a view in a document, in the order in which they are drawn. -/
def marks (v : View) (d : Document) : List Mark :=
  (v.folded.map (Mark.ofRange d true) ++ v.faded.map (Mark.ofRange d false)).mergeSort Mark.le

/-- What a mark shows of a text. -/
def markPiece (t : Text) (m : Mark) : Piece :=
  if m.isFolded then ⟨Drawing.placeholder, some .placeholder⟩
  else ⟨t.slice m.start m.stop, some .dimmed⟩

/-- The pieces of a text from an offset on. -/
def piecesFrom (t : Text) (cursor : Nat) : List Mark → List Piece
  | [] => [⟨t.drop cursor, none⟩]
  | m :: ms =>
    if m.start < cursor then piecesFrom t cursor ms
    else ⟨t.slice cursor m.start, none⟩ :: markPiece t m :: piecesFrom t m.stop ms

/-- The drawing of a document in a view. -/
def draw (v : View) (d : Document) : Drawing :=
  (piecesFrom d.text 0 (v.marks d)).foldl .append {}

end View

end AttrFold
