import AttrFold.Entries
import AttrFold.Number.Binary64

/-!
The values that settings are kept in. Integers are unbounded and apart from floating-point numbers;
the members of an object keep their order.
-/

namespace AttrFold

/-- A JSON value. -/
inductive Json where
  | null
  | bool (b : Bool)
  | int (n : Int)
  | float (x : Binary64)
  | str (t : Text)
  | arr (items : List Json)
  | obj (members : List (Text × Json))

namespace Json

/-- The members of an object. -/
abbrev Object := Entries Text Json

instance : Inhabited Json := ⟨.null⟩

end Json

end AttrFold
