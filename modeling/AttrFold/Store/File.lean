import AttrFold.Files.Basic
import AttrFold.Json.Reader
import AttrFold.Settings.Load

/-!
Settings in a file. The file is read again for every look-up, so changes from outside count at once;
a file that is missing, cannot be read or holds no object counts as an empty one. Errors are bytes that
are no text, and a text that the reader meets its limits in. It is written with its keys in order.
-/

namespace AttrFold.FileStore

/-- Where settings are kept unless another place is named. -/
def defaultPath : Text := "~/.config/classfold/settings.json"

/-- The path of the settings file: the one that is named, with the home directory in the place of a
tilde. -/
def path (named : Option Text) (home : Text) : Except Path.HomeError Path :=
  (Path.ofText (named.getD defaultPath)).expandHome home

/-- The members of a settings file, and what is reported while it is read. The limits are those of the
reader of its text; unless they are given, it takes integers of any number of digits and values of any
depth. -/
def readAll (fs : Files) (file : Path) (limits : Json.Limits := {}) :
    Except FileError (Json.Object × List Event) :=
  match fs.readText file with
  | .error .notFound => .ok ([], [])
  | .error .notUtf8 => .error .notUtf8
  | .error _ => .ok ([], [.settingsUnreadable file])
  | .ok t =>
    match Json.readWithin limits t with
    | .error (.excess e) => .error (.excess e)
    | .error .malformed => .ok ([], [.settingsMalformed file])
    | .ok (.obj members) => .ok (members, [])
    | .ok _ => .ok ([], [.settingsNotObject file])

/-- The settings file as a source of settings, read within limits as `readAll` reads it. -/
def source (fs : Files) (file : Path) (limits : Json.Limits := {}) : Except FileError Source :=
  match readAll fs file limits with
  | .error e => .error e
  | .ok (members, events) => .ok ⟨fun k => Entries.get? k members, events⟩

/-- The text of a settings file. -/
def fileText (members : Json.Object) : Text := (Json.obj members).indented 0 ++ ['\n']

/-- Writes a settings file, and makes the directories that it is in. -/
def writeAll (fs : Files) (file : Path) (members : Json.Object) : Files.Attempt :=
  (fs.ensureParent file).andThen (·.writeBytes file (Text.encode (fileText members)))

/-- Writes a value under a key and keeps the other members. -/
def set (fs : Files) (file : Path) (key : Text) (value : Json) : Files.Attempt × List Event :=
  match readAll fs file with
  | .error e => (⟨fs, some e⟩, [])
  | .ok (members, events) =>
    let attempt := writeAll fs file (members.put key value)
    match attempt.error with
    | none => (attempt, events ++ [.settingWritten key value file])
    | some _ => (attempt, events)

end AttrFold.FileStore
