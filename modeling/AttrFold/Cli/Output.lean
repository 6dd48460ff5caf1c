import AttrFold.ClassList.Layout
import AttrFold.Json.Writer
import AttrFold.Classification
import AttrFold.Cli.Place
import AttrFold.Terminal.Markup
import AttrFold.Terminal.Table

/-!
What the commands print.
-/

namespace AttrFold.Cli

/-- The width of printed lines. -/
def lineWidth : Nat := 1000

/-- A printed line of markup. -/
def markupLine (markup : Text) : Text :=
  Terminal.wrapped lineWidth (Terminal.plain markup) ++ ['\n']

/-- The number of characters of a class list that are listed. -/
def listedWidth : Int := 60

/-- Lines, each with its end. -/
def linesText (lines : List Text) : Text := lines.flatMap fun line => line ++ ['\n']

/-- The word for a disposition. -/
def dispositionWord : Disposition → Text
  | .unfolded => "unfolded"
  | .faded => "faded"
  | .folded => "folded"

/-- The spans of a classification with their dispositions, in the order of the document. -/
def scanRows (c : Classification) : List (Span × Disposition) :=
  let rows := [Disposition.unfolded, .faded, .folded].flatMap fun d =>
    (c.bucket d).map fun span => (span, d)
  rows.mergeSort fun a b => a.1.range.start ≤ b.1.range.start

/-- The cells of a span in a listing. -/
def scanCells (row : Span × Disposition) : List Text :=
  [dispositionWord row.2, row.1.range.start.text, row.1.range.stop.text,
    Text.ofNat row.1.text.length, Drawing.clean (ClassList.truncate row.1.text listedWidth)]

/-- The listing of a scan. -/
def scanText (c : Classification) : Text :=
  let rows := scanRows c
  linesText (Terminal.table lineWidth ["disposition", "start", "end", "length", "text"]
      (rows.map scanCells))
    ++ markupLine ("(" ++ Text.ofNat rows.length ++ " spans)")

/-- The listing of settings. -/
def settingsText (s : Settings) : Text :=
  linesText (Terminal.table lineWidth ["key", "value"]
    (Setting.all.map fun k => [Terminal.plain k.label, Terminal.plain (s.value k).compact]))

/-- A drawing of a document. -/
def drawingText (d : Drawing) : Text := Terminal.unwrapped lineWidth d.plain ++ ['\n']

/-- A class list in its layout by itself. -/
def formatText (t : Text) : Text :=
  Terminal.wrapped lineWidth (Drawing.clean (Terminal.withPictographs (ClassList.format t)))

/-- A text without a byte-order mark at its start. -/
def dropByteOrderMark : Text → Text
  | '\ufeff' :: cs => cs
  | cs => cs

/-- A character of a previewed class list; the null character cannot be shown. -/
def previewChar (c : Char) : Char := if c.toNat = 0 then '\ufffd' else c

/-- A class list in its layout, with a blank line before and after it and a space on both of its
sides. -/
def previewText (t : Text) : Text :=
  let body := Text.dropEndWhile Text.isBlank ((ClassList.format t).map previewChar)
  let lines := ((dropByteOrderMark body).splitOn '\n').flatMap fun line =>
    Terminal.breakLine .fold (lineWidth - 2) (Drawing.clean line)
  linesText ([[]] ++ lines.map (fun line => ' ' :: line) ++ [[]])

end AttrFold.Cli
