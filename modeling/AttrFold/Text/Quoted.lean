import AttrFold.Text.Digit
import AttrFold.Text.Printable

/-!
Quoted texts, as messages show them: within single quotes, or within double quotes when the text
holds a single quote and no double quote. The backslash, the quote in use and every character that is
not printable are escaped.
-/

namespace AttrFold.Text

/-- The escape of a character that is not printable: by name, or by its code point in two, four or
eight hexadecimal digits. -/
def escapeUnprintable (c : Char) : Text :=
  if c = '\t' then "\\t"
  else if c = '\n' then "\\n"
  else if c = '\r' then "\\r"
  else if c.toNat < 0x100 then "\\x" ++ hex 2 c.toNat
  else if c.toNat < 0x10000 then "\\u" ++ hex 4 c.toNat
  else "\\U" ++ hex 8 c.toNat

/-- A character inside quotes of the given kind. -/
def escapeQuoted (quote c : Char) : Text :=
  if c = quote || c = '\\' then ['\\', c]
  else if isPrintable c then [c]
  else escapeUnprintable c

/-- The quote that a text is shown in. -/
def quoteFor (t : Text) : Char := if t.contains '\'' && !t.contains '"' then '"' else '\''

/-- A text in quotes. -/
def quoted (t : Text) : Text :=
  let quote := quoteFor t
  quote :: t.flatMap (escapeQuoted quote) ++ [quote]

end AttrFold.Text
