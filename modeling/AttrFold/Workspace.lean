import AttrFold.Session

/-!
A host with several editors, a settings store in memory and one session. Editors and store change
without notice; the session learns of it only when it is told.
-/

namespace AttrFold

/-- A settings store in memory, with all that was written to it. -/
structure MemoryStore where
  values : Json.Object := []
  writes : List (Text × Json) := []

namespace MemoryStore

/-- Writes a value under a key. -/
def set (store : MemoryStore) (key : Text) (value : Json) : MemoryStore :=
  ⟨store.values.put key value, store.writes ++ [(key, value)]⟩

/-- The store as a source of settings. -/
def source (store : MemoryStore) : Source := .ofObject store.values

end MemoryStore

/-- A host: its store, its editors, which of them is active, and its session. -/
structure Workspace where
  store : MemoryStore := {}
  editors : List Editor := []
  active : Option Nat := none
  session : Session := {}

namespace Workspace

/-- What can be done in a workspace. -/
inductive Action where
  | loadSettings
  | activate (editor : Option Nat)
  | select (editor : Nat) (selections : List Selection)
  | edit (editor : Nat) (document : Document)
  | selectionChanged
  /-- The values under some keys changed; unless they are given, under any keys. -/
  | settingsChanged (keys : Option (List Text))
  | toggle
  | update
  | put (values : List (Text × Json))
  | remove (key : Text)
  | set (key : Text) (value : Json)

/-- The active editor. -/
def activeEditor (w : Workspace) : Option Editor := w.active.bind fun i => w.editors[i]?

/-- The workspace with its session changed. -/
def withSession (w : Workspace) (outcome : Session × List Event) : Workspace × List Event :=
  ({ w with session := outcome.1 }, outcome.2)

/-- Reads the settings from the store. -/
def loadSettings (w : Workspace) : Workspace × List Event :=
  w.withSession (w.session.load w.store.source w.activeEditor)

/-- Scans the document of the active editor. -/
def update (w : Workspace) : Workspace × List Event :=
  w.withSession (w.session.update w.activeEditor)

/-- Makes an editor the active one, if there is such an editor. -/
def activate (w : Workspace) (i : Nat) : Workspace × List Event :=
  match w.editors[i]? with
  | none => (w, [])
  | some e => { w with active := some i }.withSession (w.session.activate e)

/-- Turns automatic folding on or off, in the settings in force and in the store. -/
def toggle (w : Workspace) : Workspace × List Event :=
  let session := w.session.flip
  let store := w.store.set Setting.autoFold.key (.bool session.settings.autoFold)
  { w with store }.withSession (session.afterFlip w.activeEditor)

/-- Whether a change of settings matters: one of its keys is relevant, or the keys are not known. -/
def isRelevantChange (keys : Option (List Text)) : Bool :=
  keys.all fun ks => ks.any Setting.isRelevantKey

/-- Does an action. -/
def step (w : Workspace) : Action → Workspace × List Event
  | .loadSettings => w.loadSettings
  | .activate none => (w, [])
  | .activate (some i) => w.activate i
  | .select i selections =>
    ({ w with editors := w.editors.modify i fun e => { e with selections } }, [])
  | .edit i document => ({ w with editors := w.editors.modify i fun e => { e with document } }, [])
  | .selectionChanged => w.update
  | .settingsChanged keys => if isRelevantChange keys then w.loadSettings else (w, [])
  | .toggle => w.toggle
  | .update => w.update
  | .put values => ({ w with store := { w.store with values := w.store.values.putAll values } }, [])
  | .remove key => ({ w with store := { w.store with values := w.store.values.erase key } }, [])
  | .set key value => ({ w with store := w.store.set key value }, [])

end Workspace

end AttrFold
