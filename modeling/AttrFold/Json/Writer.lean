import AttrFold.Json.Basic
import AttrFold.Text.Quoted

/-!
Writing JSON values: on one line, as JSON or as messages show them, and indented with sorted keys, as
settings files hold them. JSON text is written with ASCII characters only.
-/

namespace AttrFold

/-- Whether a text comes before another one, or is the same, in the order by code points. -/
def Text.le : Text → Text → Bool
  | [], _ => true
  | _ :: _, [] => false
  | c :: cs, d :: ds => if c = d then Text.le cs ds else c.toNat < d.toNat

namespace Json

/-- An escape by number: one code of 16 bits in four hexadecimal digits. -/
def codeEscape (n : Nat) : Text := "\\u" ++ Text.hex 4 n

/-- A character inside a string. -/
def escapeChar (c : Char) : Text :=
  if c = '"' then "\\\""
  else if c = '\\' then "\\\\"
  else if c = '\n' then "\\n"
  else if c = '\r' then "\\r"
  else if c = '\t' then "\\t"
  else if c.toNat = 12 then "\\f"
  else if c.toNat = 8 then "\\b"
  else if 32 ≤ c.toNat && c.toNat < 127 then [c]
  else if c.toNat < 0x10000 then codeEscape c.toNat
  else
    let n := c.toNat - 0x10000
    codeEscape (0xd800 + n / 1024) ++ codeEscape (0xdc00 + n % 1024)

/-- A string in its quotes. -/
def stringText (t : Text) : Text := '"' :: t.flatMap escapeChar ++ ['"']

/-- The spellings in which values on one line differ. -/
structure Spelling where
  null : Text
  yes : Text
  no : Text
  specials : Binary64.Specials
  string : Text → Text

/-- The spelling of JSON text. -/
def Spelling.json : Spelling :=
  ⟨"null", "true", "false", ⟨"Infinity", "NaN"⟩, stringText⟩

/-- The spelling of values in messages. -/
def Spelling.message : Spelling :=
  ⟨"None", "True", "False", ⟨"inf", "nan"⟩, Text.quoted⟩

mutual

/-- A value on one line. -/
def inline (s : Spelling) : Json → Text
  | .null => s.null
  | .bool b => if b then s.yes else s.no
  | .int n => Text.ofInt n
  | .float x => x.text s.specials
  | .str t => s.string t
  | .arr items => "[" ++ Text.joinWith ", " (inlineItems s items) ++ "]"
  | .obj members => "\x7b" ++ Text.joinWith ", " (inlineMembers s members) ++ "\x7d"

/-- The items of an array, each on one line. -/
def inlineItems (s : Spelling) : List Json → List Text
  | [] => []
  | v :: vs => inline s v :: inlineItems s vs

/-- The members of an object, each on one line. -/
def inlineMembers (s : Spelling) : List (Text × Json) → List Text
  | [] => []
  | (k, v) :: ms => (s.string k ++ ": " ++ inline s v) :: inlineMembers s ms

end

/-- A value as JSON text on one line. -/
def compact (v : Json) : Text := inline .json v

/-- A value as messages show it. -/
def shown (v : Json) : Text := inline .message v

/-- The start of a new line at a depth of nesting. -/
def newLine (depth : Nat) : Text := '\n' :: List.replicate (2 * depth) ' '

/-- Texts between brackets, one on a line; nothing at all between them when there are none. -/
def block (start stop : Text) (depth : Nat) (lines : List Text) : Text :=
  if lines.isEmpty then start ++ stop
  else start ++ newLine (depth + 1) ++ Text.joinWith ("," ++ newLine (depth + 1)) lines
    ++ newLine depth ++ stop

/-- Members in the order of their keys. -/
def sortMembers (members : List (Text × Text)) : List (Text × Text) :=
  members.mergeSort fun a b => Text.le a.1 b.1

mutual

/-- A value over several lines, with the members of objects in the order of their keys. -/
def indented (depth : Nat) : Json → Text
  | .arr items => block "[" "]" depth (indentedItems (depth + 1) items)
  | .obj members =>
    block "\x7b" "\x7d" depth
      ((sortMembers (indentedMembers (depth + 1) members)).map fun m =>
        stringText m.1 ++ ": " ++ m.2)
  | .null => inline .json .null
  | .bool b => inline .json (.bool b)
  | .int n => inline .json (.int n)
  | .float x => inline .json (.float x)
  | .str t => inline .json (.str t)

/-- The items of an array, each over several lines. -/
def indentedItems (depth : Nat) : List Json → List Text
  | [] => []
  | v :: vs => indented depth v :: indentedItems depth vs

/-- The members of an object as keys and values over several lines. -/
def indentedMembers (depth : Nat) : List (Text × Json) → List (Text × Text)
  | [] => []
  | (k, v) :: ms => (k, indented depth v) :: indentedMembers depth ms

end

end Json

end AttrFold
