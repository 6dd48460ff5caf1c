import AttrFold.Position
import AttrFold.Text.Blank
import AttrFold.Text.Quoted

/-!
Places in a document as they are typed: `LINE:COLUMN`, both counted from one, and a selection as a
place or as two places with a hyphen between them.
-/

namespace AttrFold

/-- A text that is not a place. -/
structure BadPlace where
  given : Text
deriving DecidableEq

/-- What the message about such a text says. -/
def BadPlace.message (b : BadPlace) : Text :=
  "expected LINE:COLUMN (1-based), got " ++ Text.quoted b.given

namespace Position

/-- Reads a place, with blanks around it. -/
def ofText (t : Text) : Except BadPlace Position :=
  match Text.cut? ':' (Text.strip t) with
  | none => .error ⟨t⟩
  | some (line, column) =>
    match Text.numeral? line, Text.numeral? column with
    | some (l + 1), some (c + 1) => .ok ⟨l, c⟩
    | _, _ => .error ⟨t⟩

/-- A position as a place. -/
def text (p : Position) : Text := Text.ofInt (p.line + 1) ++ [':'] ++ Text.ofInt (p.character + 1)

end Position

namespace Selection

/-- Reads a selection: a place, or the place where it was begun and the one where it ended. -/
def ofText (t : Text) : Except BadPlace Selection :=
  let (anchor, head) := (Text.cut? '-' t).getD (t, [])
  match Position.ofText anchor with
  | .error e => .error e
  | .ok p =>
    if head.isEmpty then .ok (.cursor p)
    else
      match Position.ofText head with
      | .error e => .error e
      | .ok q => .ok (.drawn p q)

/-- Reads selections; the first text that is none is reported. -/
def allOfTexts : List Text → Except BadPlace (List Selection)
  | [] => .ok []
  | t :: ts =>
    match ofText t with
    | .error e => .error e
    | .ok s =>
      match allOfTexts ts with
      | .error e => .error e
      | .ok rest => .ok (s :: rest)

end Selection

end AttrFold
