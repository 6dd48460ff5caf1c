import AttrFold.ClassList.Category
import AttrFold.Entries

/-!
The layout of a class list in a preview: one line for the names of each category, in the order of the
categories, and after these one line for the names of each variant, in the order in which the
variants first appear. Within a line the names keep their order.
-/

namespace AttrFold.ClassList

/-- Adds a name to the line of its variant, at the end when the variant is new. -/
def addVariant (lines : Entries Text (List Text)) (name : Text) : Entries Text (List Text) :=
  lines.put (variant name) ((lines.get? (variant name)).getD [] ++ [name])

/-- The names with variants, by variant. -/
def variantLines (names : List Text) : Entries Text (List Text) :=
  (names.filter hasVariant).foldl addVariant []

/-- The names without variants that belong to a category. -/
def categoryLine (names : List Text) (c : Category) : List Text :=
  names.filter fun name => !hasVariant name && Category.of name = c

/-- The lines of a layout, each as its names. -/
def layout (names : List Text) : List (List Text) :=
  (Category.all.map (categoryLine names) ++ (variantLines names).map Prod.snd).filter
    fun line => !line.isEmpty

/-- A line of names. -/
def lineText (names : List Text) : Text := Text.joinWith " " names ++ ['\n']

/-- A class list in its layout. -/
def format (t : Text) : Text := (layout (tokens t)).flatMap lineText

/-- A class list in its layout as a fenced block. -/
def fenced (t : Text) : Text := "```css\n" ++ format t ++ "```"

end AttrFold.ClassList
