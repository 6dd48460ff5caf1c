import AttrFold.Text.Blank

/-!
The class names of a class list, which may still stand in its quotes and braces.
-/

namespace AttrFold.ClassList

/-- Whether a character may surround a class list: a quote, a brace or a blank. -/
def isEdge (c : Char) : Bool :=
  c = '\'' || c = '"' || c = '\x60' || c = '\x7b' || c = '\x7d' || Text.isBlank c

/-- The length of the run of edge characters at a place of a text, when this run begins or ends the
text. Otherwise, and where no such run stands, it is 0. -/
def outerRun (atStart : Bool) (rest : Text) : Nat :=
  let run := (rest.takeWhile isEdge).length
  if atStart || run = rest.length then run else 0

/-- What a single pass leaves of a text when it leaves out its outer runs. The first `skip` characters
belong to a run that was met before. -/
def dropOuterRuns : (skip : Nat) → (atStart : Bool) → Text → Text
  | _, _, [] => []
  | skip + 1, _, _ :: cs => dropOuterRuns skip false cs
  | 0, atStart, c :: cs =>
    match outerRun atStart (c :: cs) with
    | 0 => c :: dropOuterRuns 0 false cs
    | skip + 1 => dropOuterRuns skip false cs

/-- The class names of a text, without the quotes, braces and blanks at its two ends. -/
def tokens (t : Text) : List Text := Text.words (dropOuterRuns 0 true (Text.strip t))

/-- The class list in a single line of at most `width` characters: longer ones are cut and end in
three dots. A width below three is cut from the end instead. -/
def truncate (t : Text) (width : Int) : Text :=
  let line := Text.joinWith " " (Text.words t)
  if width < line.length then
    let kept := if 3 ≤ width then (width - 3).toNat else (line.length + (width - 3)).toNat
    line.take kept ++ "..."
  else line

end AttrFold.ClassList
