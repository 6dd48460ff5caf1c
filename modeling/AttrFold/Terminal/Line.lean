import AttrFold.Text.Blank
import AttrFold.Text.CellWidth

/-!
Fitting lines into a terminal: tabs go to the next multiple of eight cells, and lines that are too
long are broken between words, or inside a word that is itself too long.
-/

namespace AttrFold.Terminal

open Text (isBlank cells charCells)

/-- The distance between two tab stops. -/
def tabSize : Nat := 8

/-- A line from a column on, with spaces in the place of tabs. -/
def expandTabsFrom (column : Nat) : Text → Text
  | [] => []
  | c :: cs =>
    if c = '\t' then
      let size := tabSize - column % tabSize
      List.replicate size ' ' ++ expandTabsFrom (column + size) cs
    else c :: expandTabsFrom (column + charCells c) cs

/-- A line with spaces in the place of tabs. -/
def expandTabs (line : Text) : Text := expandTabsFrom 0 line

/-- A word of a line: blanks before it, the word itself and blanks after it. -/
structure Word where
  body : Text
  trail : Text

/-- The words of a line, and the blanks of a line that has none. -/
def wordsOf (fuel : Nat) (line : Text) : List Word :=
  match fuel with
  | 0 => []
  | fuel + 1 =>
    let lead := line.takeWhile isBlank
    let rest := line.dropWhile isBlank
    if rest.isEmpty then if lead.isEmpty then [] else [⟨[], lead⟩]
    else
      let word := rest.takeWhile fun c => !isBlank c
      let rest := rest.drop word.length
      let trail := rest.takeWhile isBlank
      ⟨lead ++ word, trail⟩ :: wordsOf fuel (rest.drop trail.length)

/-- A text in parts of at most `width` cells; the given part with its size is continued. -/
def chop (width : Nat) (part : Text) (size : Nat) : Text → List Text
  | [] => [part]
  | c :: cs =>
    if width < size + charCells c then part :: chop width [c] (charCells c) cs
    else chop width (part ++ [c]) (size + charCells c) cs

/-- What becomes of words that are longer than a line. -/
inductive Overflow where
  /-- They go on in the next line. -/
  | fold
  /-- They have a line of their own and end in an ellipsis. -/
  | ellipsis
deriving DecidableEq

/-- The lines that words fill, after a line that is filled already up to a number of cells. -/
def fill (overflow : Overflow) (width : Nat) (line : Text) (size : Nat) : List Word → List Text
  | [] => [line]
  | w :: ws =>
    let text := w.body ++ w.trail
    let before := if line.isEmpty then [] else [line]
    if size + cells w.body ≤ width then
      fill overflow width (line ++ text) (size + cells text) ws
    else if width < cells w.body && overflow = .fold then
      let parts := chop width [] 0 text
      let last := parts.getLastD []
      before ++ parts.dropLast ++ fill overflow width last (cells last) ws
    else before ++ fill overflow width text (cells text) ws

/-- A line without those blanks at its end that reach beyond a number of characters. -/
def dropExcessBlanks (width : Nat) (line : Text) : Text :=
  let blanks := (line.reverse.takeWhile isBlank).length
  line.take (line.length - min blanks (line.length - width))

/-- The longest first part of a text that takes at most `width` cells. -/
def takeCells (width : Nat) : Text → Text
  | [] => []
  | c :: cs => if width < charCells c then [] else c :: takeCells (width - charCells c) cs

/-- A line of exactly `width` cells in place of a longer one: its end is an ellipsis. -/
def abridge (width : Nat) (line : Text) : Text :=
  if cells line ≤ width then line
  else
    let kept := takeCells (width - 1) line
    kept ++ List.replicate (width - 1 - cells kept) ' ' ++ ['…']

/-- The lines into which a line is broken. -/
def breakLine (overflow : Overflow) (width : Nat) (line : Text) : List Text :=
  (fill overflow width [] 0 (wordsOf (line.length + 1) line)).map fun line =>
    let line := dropExcessBlanks width line
    if overflow = .ellipsis then abridge width line else line

/-- A text with its tabs expanded and its long lines broken. -/
def wrapped (width : Nat) (t : Text) : Text :=
  Text.joinWith "\n"
    ((t.splitOn '\n').flatMap fun line => breakLine .fold width (expandTabs line))

/-- A text with its tabs expanded and its lines left whole. -/
def unwrapped (width : Nat) (t : Text) : Text :=
  Text.joinWith "\n" ((t.splitOn '\n').map fun line => dropExcessBlanks width (expandTabs line))

end AttrFold.Terminal
