import AttrFold.Document.Basic
import AttrFold.Files.Basic
import AttrFold.Language

/-!
Opening the document of a file.
-/

namespace AttrFold

/-- Why a document cannot be opened. -/
inductive OpenError where
  /-- The file does not exist. -/
  | missing (path : Text)
  | unreadable (error : FileError)
  | language (unknown : Language.Unknown)
deriving DecidableEq

/-- What the message about a missing file says. -/
def OpenError.missingMessage (path : Text) : Text := "File not found: " ++ path

namespace Document

/-- The document of a file, in the given language or in the one that its path tells. The file is read
first. The path is taken as it was given, since the message about a missing file shows it so. -/
def openFile (fs : Files) (path : Text) (language : Option Text) : Except OpenError Document :=
  match fs.readText (.ofText path) with
  | .error .notFound => .error (.missing path)
  | .error e => .error (.unreadable e)
  | .ok t =>
    match language.filter (fun l => !l.isEmpty) with
    | some l => .ok ⟨t, l⟩
    | none =>
      match Language.ofPath (.ofText path) with
      | .ok l => .ok ⟨t, l.id⟩
      | .error e => .error (.language e)

end Document

end AttrFold
