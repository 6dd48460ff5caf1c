import AttrFold.Entries
import AttrFold.Settings.Basic

/-!
How each span of a document is shown, and the texts behind the spans that are not shown as they are.
-/

namespace AttrFold

/-- How a span is shown: as it is, dimmed, or as a placeholder. -/
inductive Disposition where
  | unfolded
  | faded
  | folded
deriving DecidableEq

/-- The ends of a range as a key. Keys need not be in order. -/
structure SpanKey where
  startLine : Int
  startCharacter : Int
  stopLine : Int
  stopCharacter : Int
deriving DecidableEq

namespace SpanKey

/-- The key of a range. -/
def ofRange (r : Range) : SpanKey :=
  ⟨r.start.line, r.start.character, r.stop.line, r.stop.character⟩

/-- Whether a position lies on one of the lines of a key, and neither before its start on the first
of them nor after its stop on the last. -/
def covers (k : SpanKey) (p : Position) : Bool :=
  if p.line < k.startLine || k.stopLine < p.line then false
  else if p.line = k.startLine && p.character < k.startCharacter then false
  else if p.line = k.stopLine && k.stopCharacter < p.character then false
  else true

end SpanKey

/-- The texts of spans by their keys, in the order of recording. -/
abbrev SpanIndex := Entries SpanKey Text

namespace SpanIndex

/-- The text of the first recorded span at a position. -/
def lookup (index : SpanIndex) (p : Position) : Option Text :=
  (index.find? fun e => e.1.covers p).map Prod.snd

end SpanIndex

/-- The spans of a document by disposition, and the texts of those that are not shown as they are. -/
structure Classification where
  unfolded : List Span := []
  faded : List Span := []
  folded : List Span := []
  index : SpanIndex := []
deriving DecidableEq

/-- The columns that stay free between a folded text and the column at which lines are wrapped. -/
def wrapMargin : Int := 10

namespace Settings

/-- The greatest length of a folded text, if there is one: it is set, or follows from the column at
which lines are wrapped. -/
def lengthCap (s : Settings) (wrapColumn : Option Int) : Option Int :=
  if 0 < s.foldMaxLength then some s.foldMaxLength
  else match wrapColumn with
    | some column => if wrapMargin < column then some (column - wrapMargin) else none
    | none => none

/-- How a span is shown. It stays as it is when nothing is folded, when a selection holds it or lies
in it, when a selection starts on its first line and such lines are left alone, and when it is too
short; too long a span is dimmed, since its placeholder would leave a mostly blank line. -/
def dispose (s : Settings) (selections : List Selection) (cap : Option Int) (span : Span) :
    Disposition :=
  if !s.autoFold then .unfolded
  else if selections.any fun sel =>
      sel.toRange.Contains span.range || span.range.Contains sel.toRange then .unfolded
  else if s.unfoldIfLineSelected
      && selections.any fun sel => sel.start.line = span.range.start.line then .unfolded
  else if (span.text.length : Int) < s.foldLengthThreshold then .unfolded
  else if cap.any fun (c : Int) => c < span.text.length then .faded
  else .folded

end Settings

namespace Classification

/-- The spans of a disposition. -/
def bucket (c : Classification) : Disposition → List Span
  | .unfolded => c.unfolded
  | .faded => c.faded
  | .folded => c.folded

/-- The number of spans. -/
def size (c : Classification) : Nat := c.unfolded.length + c.faded.length + c.folded.length

/-- Records the text of a span under its key. -/
def record (c : Classification) (span : Span) : SpanIndex :=
  c.index.put (.ofRange span.range) span.text

/-- Adds a span with its disposition. -/
def add (c : Classification) (span : Span) : Disposition → Classification
  | .unfolded => { c with unfolded := c.unfolded ++ [span] }
  | .faded => { c with faded := c.faded ++ [span], index := c.record span }
  | .folded => { c with folded := c.folded ++ [span], index := c.record span }

end Classification

/-- The spans by how they are shown under the given settings and selections. -/
def Settings.classify (s : Settings) (selections : List Selection) (wrapColumn : Option Int)
    (spans : List Span) : Classification :=
  spans.foldl (fun c span => c.add span (s.dispose selections (s.lengthCap wrapColumn) span)) {}

end AttrFold
