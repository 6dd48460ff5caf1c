import AttrFold.Text.Basic

/-!
Blank characters: the space separators, and the characters whose bidirectional type is white space or
a paragraph or segment separator. The zero-width space and the byte-order mark are not blank.
-/

namespace AttrFold.Text

/-- Whether a character counts as white space. -/
def isBlank (c : Char) : Bool :=
  let n := c.toNat
  (9 ≤ n && n ≤ 13) || (28 ≤ n && n ≤ 32) || n == 0x85 || n == 0xa0 || n == 0x1680
    || (0x2000 ≤ n && n ≤ 0x200a) || n == 0x2028 || n == 0x2029 || n == 0x202f || n == 0x205f
    || n == 0x3000

/-- A text without the blanks at its two ends. -/
def strip (t : Text) : Text := trimWhile isBlank t

/-- The longest parts of a text that hold no blank, in their order. -/
def words (t : Text) : List Text := (t.splitOnP isBlank).filter fun w => !w.isEmpty

end AttrFold.Text
