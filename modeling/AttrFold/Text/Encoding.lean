import AttrFold.Text.Basic

/-!
Texts in files: UTF-8, with line feeds, carriage returns or both at the ends of lines.
-/

namespace AttrFold.Text

/-- The bytes of a text in UTF-8. -/
def encode (t : Text) : ByteArray := (String.ofList t).toUTF8

/-- The text of bytes in UTF-8; there is none when the bytes are ill-formed. -/
def decode? (bytes : ByteArray) : Option Text := (String.fromUTF8? bytes).map String.toList

/-- Every text is read back from its bytes. -/
theorem decode?_encode (t : Text) : decode? (encode t) = some t := by
  have h : (String.ofList t).toUTF8.IsValidUTF8 := (String.ofList t).isValidUTF8
  have hs : String.fromUTF8 (String.ofList t).toUTF8 h = String.ofList t := rfl
  rw [decode?, encode, String.fromUTF8?, dif_pos h, hs, Option.map_some, String.toList_ofList]

/-- A text with one line feed in place of each carriage return, and of each pair of a carriage return
and a line feed. -/
def unifyLineEnds : Text → Text
  | [] => []
  | '\r' :: '\n' :: cs => '\n' :: unifyLineEnds cs
  | '\r' :: cs => '\n' :: unifyLineEnds cs
  | c :: cs => c :: unifyLineEnds cs

end AttrFold.Text
