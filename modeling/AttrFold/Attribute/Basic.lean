import AttrFold.Text.Blank

/-!
Class attributes, as they are written in markup and in script: a head, a separator and a value that
is either a single call in braces or a quoted text. The grammar is given here as predicates on the
parts of an attribute; which attribute is read where a text allows several is fixed by
`Attribute.Reader`.
-/

namespace AttrFold

open Text (isBlank)

/-- The two forms of an attribute's value, named for the part that holds the class list. -/
inductive Form where
  | callArguments
  | quotedContent
deriving DecidableEq

/-- A class attribute in its parts. The inner part holds the class list, or the expressions that
make it up; the opening reaches up to it and the closer ends the attribute. -/
structure Attribute where
  head : Text
  separator : Text
  opening : Text
  inner : Text
  closer : Text
  form : Form
deriving DecidableEq

/-- Whether a character opens a quoted text. -/
def isQuote (c : Char) : Bool := c = '\'' || c = '"' || c = '\x60'

namespace Attribute

/-- All of the attribute before its inner part. -/
def lead (a : Attribute) : Text := a.head ++ a.separator ++ a.opening

/-- The attribute as it is written. -/
def text (a : Attribute) : Text := a.lead ++ a.inner ++ a.closer

/-- The names that begin an attribute. -/
inductive IsHead : Text → Prop where
  | class : IsHead "class"
  | className : IsHead "className"

/-- What may stand between the name and the value. -/
inductive IsSeparator : Text → Prop where
  | equals : IsSeparator "="
  | colon : IsSeparator ":"
  | colonBlank (c : Char) : isBlank c → IsSeparator [':', c]

/-- Blanks only. -/
def Blanks (t : Text) : Prop := ∀ c ∈ t, isBlank c

/-- A brace, blanks, text on one line and a parenthesis. -/
inductive IsCallOpening : Text → Prop where
  | intro (blanks callee : Text) : Blanks blanks → '\n' ∉ callee →
      IsCallOpening ('{' :: blanks ++ callee ++ ['('])

/-- The given character, blanks and a closing brace. -/
inductive IsBraceCloser (c : Char) : Text → Prop where
  | intro (blanks : Text) : Blanks blanks → IsBraceCloser c (c :: blanks ++ ['}'])

/-- A quote, and before it blanks, and before these perhaps a brace. -/
inductive IsQuotedOpening (quote : Char) : Text → Prop where
  | plain (blanks : Text) : isQuote quote → Blanks blanks →
      IsQuotedOpening quote (blanks ++ [quote])
  | braced (blanks : Text) : isQuote quote → Blanks blanks →
      IsQuotedOpening quote ('{' :: blanks ++ [quote])

/-- The two forms of a value. A quoted text is closed by its opening once more, or by its quote,
blanks and a closing brace. -/
inductive IsBody : Form → (opening inner closer : Text) → Prop where
  | call {opening inner closer : Text} : IsCallOpening opening → IsBraceCloser ')' closer →
      IsBody .callArguments opening inner closer
  | repeated {quote : Char} {opening inner : Text} : IsQuotedOpening quote opening →
      IsBody .quotedContent opening inner opening
  | braced {quote : Char} {opening inner closer : Text} : IsQuotedOpening quote opening →
      IsBraceCloser quote closer → IsBody .quotedContent opening inner closer

/-- The grammar of attributes. -/
structure WellFormed (a : Attribute) : Prop where
  head : IsHead a.head
  separator : IsSeparator a.separator
  body : IsBody a.form a.opening a.inner a.closer

end Attribute

end AttrFold
