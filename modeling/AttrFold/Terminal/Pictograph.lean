import AttrFold.Terminal.PictographTable
import AttrFold.Text.Blank
import AttrFold.Text.LowerCase

/-!
Pictographs by name: a name between colons in a printed text stands for a pictograph, and may end in
the way in which it is to be shown.
-/

namespace AttrFold.Terminal

/-- The pictograph of a name in a list of names and pictographs in turn. -/
def pictographIn? (name : Text) : List Text → Option Text
  | found :: pictograph :: rest =>
    if found = name then some pictograph else pictographIn? name rest
  | _ => none

/-- The pictograph of a name in any case. -/
def pictograph? (name : Text) : Option Text :=
  pictographLines.findSome? fun line =>
    pictographIn? (Text.lower name) (line.toList.splitOn ' ')

/-- The ways in which a pictograph can be shown, and the selectors that say so. -/
def presentations : List (Text × Char) := [("-emoji", '\ufe0f'), ("-text", '\ufe0e')]

/-- What a name between colons stands for, with the selector that its end asks for. -/
def pictographOf? (name : Text) : Option Text :=
  match presentations.find? fun p => p.1.isSuffixOf name with
  | some (ending, selector) =>
    (pictograph? (name.take (name.length - ending.length))).map (· ++ [selector])
  | none => pictograph? name

/-- Replaces names between colons; `fuel` bounds the length of the text. -/
def replaceNames (fuel : Nat) (t : Text) : Text :=
  match fuel, t with
  | 0, t => t
  | _, [] => []
  | fuel + 1, c :: cs =>
    if c = ':' then
      let name := cs.takeWhile fun d => d ≠ ':' && !Text.isBlank d
      match cs.drop name.length with
      | ':' :: rest =>
        (pictographOf? name).getD (':' :: name ++ [':']) ++ replaceNames fuel rest
      | _ => c :: replaceNames fuel cs
    else c :: replaceNames fuel cs

/-- A text with pictographs in the place of their names. -/
def withPictographs (t : Text) : Text := replaceNames t.length t

end AttrFold.Terminal
