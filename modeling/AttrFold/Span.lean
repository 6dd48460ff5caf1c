import AttrFold.Attribute.Reader
import AttrFold.Document.Basic

/-!
The parts of a document that can be folded: each attribute as a whole, or only the class list inside
it.
-/

namespace AttrFold

/-- What of an attribute is folded: all of it, or its inner part only. -/
inductive Mode where
  | all
  | quotedOnly
deriving DecidableEq

/-- A part of a document that can be folded. -/
structure Span where
  range : Range
  text : Text
  form : Form
deriving DecidableEq

namespace Attribute

/-- What is folded of an attribute; an empty inner part cannot be folded. -/
def target? (a : Attribute) : Mode → Option Text
  | .all => some a.text
  | .quotedOnly => if a.inner.isEmpty then none else some a.inner

end Attribute

namespace Span

/-- The span of an attribute in a document. It covers the place where the folded text first occurs in
the attribute. -/
def ofOccurrence? (d : Document) (mode : Mode) (o : Occurrence) : Option Span :=
  (o.found.target? mode).map fun target =>
    let start := o.offset + ((Text.find? target o.found.text).getD 0)
    ⟨d.rangeAt start target.length, target, o.found.form⟩

end Span

/-- The spans of a document, in their order. -/
def Document.spans (d : Document) (mode : Mode) : List Span :=
  (Occurrence.all d.text).filterMap (Span.ofOccurrence? d mode)

end AttrFold
