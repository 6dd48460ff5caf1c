import AttrFold.Classification
import AttrFold.ClassList.Layout
import AttrFold.Settings.Load
import AttrFold.View

/-!
Folding sessions. A session holds the settings in force and the outcome of the latest scan of the
active editor. Whatever is announced to it has the whole document scanned again.
-/

namespace AttrFold

/-- An open document with its selections. -/
structure Editor where
  document : Document
  selections : List Selection := []
deriving DecidableEq

/-- A folding session. The view holds the decorations of the latest scan. -/
structure Session where
  settings : Settings := {}
  wrapColumn : Option Int := none
  result : Option Classification := none
  scans : Nat := 0
  view : View := {}
deriving DecidableEq

namespace Session

/-- How the spans of an editor's document are shown under the settings in force. -/
def classify (s : Session) (e : Editor) : Classification :=
  s.settings.classify e.selections s.wrapColumn (e.document.spans s.settings.foldStyle.mode)

/-- The session after a scan with the given outcome. -/
def scanned (s : Session) (c : Classification) : Session :=
  { s with
    result := some c
    scans := s.scans + 1
    view := s.view.decorate (c.unfolded.map Span.range) (c.faded.map Span.range)
      (c.folded.map Span.range) }

/-- The event that reports a scan. -/
def scanEvent (s : Session) (c : Classification) : Event :=
  .scanned (s.scans + 1) c.folded.length c.faded.length c.unfolded.length

/-- Scans the document of the active editor. A document in a language that is not enabled is not
scanned, and an earlier outcome is forgotten. -/
def update (editor : Option Editor) (s : Session) : Session × List Event :=
  match editor with
  | none => (s, [])
  | some e =>
    if s.settings.supports e.document.language then
      let c := s.classify e
      (s.scanned c, [s.scanEvent c])
    else ({ s with result := none }, [.scanSkipped e.document.language])

/-- Makes an editor the active one. -/
def activate (editor : Editor) (s : Session) : Session × List Event :=
  update (some editor) { s with result := none }

/-- The session with its settings read from a source, and what is reported meanwhile. -/
def configure (src : Source) (s : Session) : Session × List Event :=
  let (settings, first) := Settings.load src
  let (wrapColumn, second) := Settings.wrapColumn src
  ({ s with settings, wrapColumn }, first ++ second ++ [.settingsLoaded settings])

/-- Reads the settings from a source and scans the document of the active editor. -/
def load (src : Source) (editor : Option Editor) (s : Session) : Session × List Event :=
  let (s, first) := s.configure src
  let (s, rest) := s.update editor
  (s, first ++ rest)

/-- Turns automatic folding on or off in the settings in force. -/
def flip (s : Session) : Session :=
  { s with settings := { s.settings with autoFold := !s.settings.autoFold } }

/-- Scans the document of the active editor after automatic folding was turned on or off. -/
def afterFlip (editor : Option Editor) (s : Session) : Session × List Event :=
  let (s, events) := s.update editor
  (s, events ++ [.autoFoldSet s.settings.autoFold])

/-- The text of the first folded or faded span at a position. -/
def hover (s : Session) (p : Position) : Option Text := s.result.bind (·.index.lookup p)

/-- The class list at a position in its layout. -/
def preview (s : Session) (p : Position) : Option Text :=
  ((s.hover p).filter fun t => !t.isEmpty).map ClassList.format

end Session

end AttrFold
