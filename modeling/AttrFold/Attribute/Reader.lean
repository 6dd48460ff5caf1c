import AttrFold.Attribute.Basic

/-!
Reading the attribute at the beginning of a text. Of the ways to read one, a call comes before a
quoted text and a separator without a blank before one with a blank. The callee of a call ends at the
first parenthesis, and the inner part of either form at the first place where the value can be closed.
-/

namespace AttrFold

open Text (isBlank)

namespace Text

/-- What follows `start` in a text that begins with it. -/
def afterPrefix? (start t : Text) : Option Text :=
  if start.isPrefixOf t then some (t.drop start.length) else none

/-- The shortest first part of a text after which `closer?` finds a closer, with that closer. -/
def upTo? (closer? : Text → Option Text) : Text → Option (Text × Text)
  | [] => (closer? []).map fun closer => ([], closer)
  | c :: cs =>
    match closer? (c :: cs) with
    | some closer => some ([], closer)
    | none => (upTo? closer? cs).map fun (inner, closer) => (c :: inner, closer)

end Text

namespace Attribute

/-- The value of an attribute in its parts. -/
structure Body where
  opening : Text
  inner : Text
  closer : Text
  form : Form
deriving DecidableEq

/-- Reads the character `c`, blanks and a closing brace. -/
def braceCloser? (c : Char) : Text → Option Text
  | [] => none
  | d :: ds =>
    if d = c && (ds.dropWhile isBlank).head? = some '}' then
      some (c :: ds.takeWhile isBlank ++ ['}'])
    else none

/-- Reads a brace and a callee up to the first parenthesis; line feeds of the callee may only stand
among the blanks at its start. -/
def callOpening? : Text → Option Text
  | [] => none
  | c :: cs =>
    if c = '{' then
      match Text.cut? '(' cs with
      | some (callee, _) =>
        if (callee.dropWhile isBlank).contains '\n' then none else some (c :: callee ++ ['('])
      | none => none
    else none

/-- Reads the value of an attribute as a call. -/
def callBody? (t : Text) : Option Body :=
  match callOpening? t with
  | none => none
  | some opening =>
    (Text.upTo? (braceCloser? ')') (t.drop opening.length)).map fun (inner, closer) =>
      ⟨opening, inner, closer, .callArguments⟩

/-- Reads blanks and a quote; gives the text up to and with the quote, and the quote. -/
def quoteAfterBlanks? (t : Text) : Option (Text × Char) :=
  match (t.dropWhile isBlank).head? with
  | some quote => if isQuote quote then some (t.takeWhile isBlank ++ [quote], quote) else none
  | none => none

/-- Reads the opening of a quoted text, with its brace if there is one; gives it and its quote. -/
def quotedOpening? (t : Text) : Option (Text × Char) :=
  match Text.afterPrefix? "\x7b" t with
  | some rest => (quoteAfterBlanks? rest).map fun (opening, quote) => ('{' :: opening, quote)
  | none => quoteAfterBlanks? t

/-- Reads the closer of a quoted text: its opening once more, or its quote, blanks and a brace. -/
def quotedCloser? (opening : Text) (quote : Char) (t : Text) : Option Text :=
  if opening.isPrefixOf t then some opening else braceCloser? quote t

/-- Reads the value of an attribute as a quoted text. -/
def quotedBody? (t : Text) : Option Body :=
  match quotedOpening? t with
  | none => none
  | some (opening, quote) =>
    (Text.upTo? (quotedCloser? opening quote) (t.drop opening.length)).map fun (inner, closer) =>
      ⟨opening, inner, closer, .quotedContent⟩

/-- Reads the value of an attribute, as a call if that is possible. -/
def body? (t : Text) : Option Body := (callBody? t).or (quotedBody? t)

/-- Reads the value after a given separator. -/
def bodyAfter? (separator t : Text) : Option (Text × Body) :=
  (body? t).map fun body => (separator, body)

/-- Reads a separator and a value. A blank after a colon is part of the value when the value can be
read that way, and part of the separator otherwise. -/
def separated? : Text → Option (Text × Body)
  | [] => none
  | c :: cs =>
    if c = '=' then bodyAfter? [c] cs
    else if c = ':' then
      (bodyAfter? [c] cs).or
        (match cs with
        | [] => none
        | b :: bs => if isBlank b then bodyAfter? [c, b] bs else none)
    else none

/-- Reads an attribute that begins with the given name. -/
def readWith? (head t : Text) : Option Attribute :=
  match Text.afterPrefix? head t with
  | none => none
  | some rest =>
    (separated? rest).map fun (separator, body) =>
      ⟨head, separator, body.opening, body.inner, body.closer, body.form⟩

/-- Reads the attribute at the beginning of a text. -/
def read? (t : Text) : Option Attribute := (readWith? "class" t).or (readWith? "className" t)

end Attribute

/-- An attribute and the offset at which it stands. -/
structure Occurrence where
  offset : Nat
  found : Attribute
deriving DecidableEq

namespace Occurrence

/-- The attributes of a text that begins at the given offset: the first one that can be read, and
then those of the text after it. -/
def allFrom (offset : Nat) : Text → List Occurrence
  | [] => []
  | c :: cs =>
    match Attribute.read? (c :: cs) with
    | some a =>
      ⟨offset, a⟩ :: allFrom (offset + a.text.length) (cs.drop (a.text.length - 1))
    | none => allFrom (offset + 1) cs
termination_by t => t.length
decreasing_by all_goals simp only [List.length_drop, List.length_cons]; omega

/-- The attributes of a text, in their order. -/
def all (t : Text) : List Occurrence := allFrom 0 t

end Occurrence

end AttrFold
