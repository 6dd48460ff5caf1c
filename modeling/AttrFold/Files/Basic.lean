import AttrFold.Entries
import AttrFold.Event
import AttrFold.Text.Encoding

/-!
A file tree: what lies at each place below the root, and the current directory. Paths are followed
name by name, and two dots lead back to the directory above.
-/

namespace AttrFold

/-- The names that lead to a place from the root; two dots are not among them. -/
abbrev Location := List Text

/-- What lies at a place. -/
inductive Item where
  | file (bytes : ByteArray)
  | directory

instance : DecidableEq Item
  | .directory, .directory => isTrue rfl
  | .file a, .file b => decidable_of_iff (a.data = b.data) (by simp [ByteArray.ext_iff])
  | .file _, .directory | .directory, .file _ => isFalse nofun

/-- A file tree. There is always a directory at the root. -/
structure Files where
  items : Entries Location Item := []
  current : Location := []

namespace Files

/-- What lies at a place, if anything does. -/
def item? (fs : Files) (l : Location) : Option Item :=
  if l.isEmpty then some .directory else fs.items.get? l

/-- The tree with something put at a place. -/
def place (fs : Files) (l : Location) (i : Item) : Files := { fs with items := fs.items.put l i }

/-- The place one name further on: directories only can be entered. -/
def enter (fs : Files) (l : Location) (name : Text) : Except FileError Location :=
  match fs.item? l with
  | none => .error .notFound
  | some (.file _) => .error .notDirectory
  | some .directory => .ok (if name = ".." then l.dropLast else l ++ [name])

/-- The place that names lead to. Nothing needs to lie at the last one. -/
def follow (fs : Files) (l : Location) : List Text → Except FileError Location
  | [] => .ok l
  | name :: names =>
    match fs.enter l name with
    | .ok l => fs.follow l names
    | .error e => .error e

/-- The place that a path leads to, from the root or from the current directory. -/
def locate (fs : Files) (p : Path) : Except FileError Location :=
  fs.follow (if p.anchor.isEmpty then fs.current else []) p.names

/-- What lies at the end of a path. -/
def at? (fs : Files) (p : Path) : Except FileError Item :=
  match fs.locate p with
  | .error e => .error e
  | .ok l =>
    match fs.item? l with
    | some i => .ok i
    | none => .error .notFound

/-- Whether anything lies at the end of a path. -/
def doesExist (fs : Files) (p : Path) : Bool :=
  match fs.at? p with
  | .ok _ => true
  | .error _ => false

/-- Whether a path leads to a directory. -/
def isDirectory (fs : Files) (p : Path) : Bool :=
  match fs.at? p with
  | .ok .directory => true
  | _ => false

/-- The bytes of a file. -/
def readBytes (fs : Files) (p : Path) : Except FileError ByteArray :=
  match fs.at? p with
  | .error e => .error e
  | .ok .directory => .error .isDirectory
  | .ok (.file bytes) => .ok bytes

/-- The text of a file, with one line feed at the end of each of its lines. -/
def readText (fs : Files) (p : Path) : Except FileError Text :=
  match fs.readBytes p with
  | .error e => .error e
  | .ok bytes =>
    match Text.decode? bytes with
    | some t => .ok t.unifyLineEnds
    | none => .error .notUtf8

/-- Writes a file; the directory that it is in has to exist. -/
def writeBytes (fs : Files) (p : Path) (bytes : ByteArray) : Except FileError Files :=
  match fs.locate p with
  | .error e => .error e
  | .ok l =>
    match fs.item? l with
    | some .directory => .error .isDirectory
    | _ => .ok (fs.place l (.file bytes))

/-- Makes a directory where nothing lies yet. -/
def makeDirectory (fs : Files) (p : Path) : Except FileError Files :=
  match fs.locate p with
  | .error e => .error e
  | .ok l =>
    match fs.item? l with
    | some _ => .error .alreadyExists
    | none => .ok (fs.place l .directory)

/-- Makes a directory, unless there is one already. -/
def ensureDirectory (fs : Files) (p : Path) : Except FileError Files :=
  match fs.makeDirectory p with
  | .ok fs => .ok fs
  | .error .notFound => .error .notFound
  | .error e => if fs.isDirectory p then .ok fs else .error e

/-- A tree after an attempt to change it in several steps, and why a step failed, if one did. What was
done before that step stays done. -/
structure Attempt where
  files : Files
  error : Option FileError := none

namespace Attempt

/-- The attempt that consists of one step, which a tree goes through as a whole or not at all. -/
def ofStep (fs : Files) : Except FileError Files → Attempt
  | .ok fs => ⟨fs, none⟩
  | .error e => ⟨fs, some e⟩

/-- One more step, unless the attempt has failed before it. -/
def andThen (a : Attempt) (step : Files → Except FileError Files) : Attempt :=
  match a.error with
  | none => ofStep a.files (step a.files)
  | some _ => a

end Attempt

/-- Makes a directory and those that lead to it, unless they exist already. The names of the path are
given last name first. -/
def ensureDirectories (fs : Files) (anchor : Text) : List Text → Attempt
  | [] => .ofStep fs (fs.ensureDirectory ⟨anchor, []⟩)
  | name :: names =>
    let p : Path := ⟨anchor, (name :: names).reverse⟩
    match fs.ensureDirectory p with
    | .error .notFound => (fs.ensureDirectories anchor names).andThen (·.ensureDirectory p)
    | outcome => .ofStep fs outcome

/-- Makes the directory that a file is to be in. -/
def ensureParent (fs : Files) (p : Path) : Attempt :=
  fs.ensureDirectories p.anchor p.parent.names.reverse

/-- Removes whatever lies at the end of a path, with all that is below it. -/
def remove (fs : Files) (p : Path) : Files :=
  match fs.locate p with
  | .error _ => fs
  | .ok l => { fs with items := fs.items.filter fun e => !l.isPrefixOf e.1 }

end Files

end AttrFold
