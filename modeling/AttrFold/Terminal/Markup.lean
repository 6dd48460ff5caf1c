import AttrFold.Terminal.Pictograph
import AttrFold.View

/-!
Markup in printed texts: a tag in brackets sets a style and is not shown itself. Backslashes before a
tag are halved, and an odd one shows the tag as it is written. Names of pictographs between colons
become the pictographs.
-/

namespace AttrFold.Terminal

/-- Whether a character may begin a tag. -/
def isTagStart (c : Char) : Bool :=
  ('a' ≤ c && c ≤ 'z') || c = '#' || c = '/' || c = '@'

/-- The inside of a tag after its opening bracket, and what follows its closing bracket. -/
def tag? : Text → Option (Text × Text)
  | [] => none
  | c :: cs =>
    if isTagStart c then
      match Text.cut? ']' cs with
      | some (inside, rest) => if inside.contains '[' then none else some (c :: inside, rest)
      | none => none
    else none

/-- The tag at the start of a text, with what follows it. -/
def bracketed? : Text → Option (Text × Text)
  | '[' :: cs => tag? cs
  | _ => none

/-- A text without backslashes in front of opening brackets. -/
def unescape : Text → Text
  | [] => []
  | [c] => [c]
  | c :: d :: cs =>
    if c = '\\' && d = '[' then '[' :: unescape cs else c :: unescape (d :: cs)

/-- What is shown in the place of a tag with the given number of backslashes before it. -/
def tagParts (slashes : Nat) (inside : Text) : List Text :=
  [List.replicate (slashes / 2) '\\', if slashes % 2 = 1 then '[' :: inside ++ [']'] else []]

/-- The parts of a text between its tags. The characters since the last tag are given last one first;
`fuel` bounds the length of the text. -/
def plainParts (fuel : Nat) (seen : Text) (t : Text) : List Text :=
  match fuel, t with
  | 0, _ | _, [] => [seen.reverse]
  | fuel + 1, c :: cs =>
    let slashes := (t.takeWhile (· = '\\')).length
    match bracketed? (t.drop slashes) with
    | some (inside, rest) => seen.reverse :: tagParts slashes inside ++ plainParts fuel [] rest
    | none =>
      if slashes = 0 then plainParts fuel (c :: seen) cs
      else plainParts fuel (List.replicate slashes '\\' ++ seen) (t.drop slashes)

/-- The text that markup shows. -/
def plain (markup : Text) : Text :=
  (plainParts markup.length [] markup).flatMap fun part =>
    Drawing.clean (withPictographs (unescape part))

end AttrFold.Terminal
