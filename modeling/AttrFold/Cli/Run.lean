import AttrFold.Cli.Command
import AttrFold.Cli.Output
import AttrFold.Document.Open
import AttrFold.Session
import AttrFold.Store.File
import AttrFold.Watch

/-!
Running commands on a file tree. A command yields the tree after it, what it printed and reported, and
how it ended; it never depends on anything but its arguments, the tree and the environment.
-/

namespace AttrFold.Cli

/-- Why a command ends early. -/
inductive Failure where
  /-- A failure that the user is told about. -/
  | reported (message : Text)
  | misused (misuse : Misuse)
  | badPlace (place : BadPlace)
  | noHome (error : Path.HomeError)
  /-- An error of a file that the command cannot go on from. -/
  | file (error : FileError)
deriving DecidableEq

/-- The exit code after a failure. -/
def Failure.exitCode : Failure → Nat
  | misused _ | badPlace _ => 2
  | reported _ | noHome _ | file _ => 1

/-- A line about a failure that the command itself says nothing about. -/
def Failure.note : Failure → Text
  | reported _ => []
  | misused .noSuchOption => "There is no such option.\n"
  | misused .badOptionUse => "An option lacks its value, or takes none.\n"
  | misused .missingArgument => "An argument is missing.\n"
  | misused .other => "There is no such command.\n"
  | badPlace place => place.message ++ "\n"
  | noHome error => error.message ++ "\n"
  | file error => error.name ++ "\n"

/-- The outcome of a command. -/
structure Outcome where
  files : Files
  failure : Option Failure := none
  output : Text := []
  events : List Event := []

namespace Outcome

/-- The exit code of a command. -/
def exitCode (o : Outcome) : Nat := o.failure.elim 0 Failure.exitCode

/-- What is printed about the failure of a command. -/
def errorOutput (o : Outcome) : Text :=
  match o.failure with
  | some (.reported message) => markupLine ("[red]" ++ message ++ "[/red]")
  | _ => []

/-- The events that are shown: all of them, or only the grave ones. -/
def shownEvents (isVerbose : Bool) (o : Outcome) : List Event :=
  o.events.filter fun e => isVerbose || e.level = .warning || e.level = .error

end Outcome

/-- What a command knows of its surroundings: the home directory, and the settings file that the
environment names. -/
structure Environment where
  home : Text
  settings : Option Text := none

/-! ### Documents -/

/-- The document of a file, in the given language or the one that its path tells. -/
def openDocument (fs : Files) (path : Path) (language : Option Text) : Except Failure Document :=
  match Language.resolve language (some path) with
  | .error e => .error (.reported e.message)
  | .ok l =>
    match Document.openFile fs path.text (some l.id) with
    | .ok d => .ok d
    | .error (.missing path) => .error (.reported (OpenError.missingMessage path))
    | .error (.unreadable e) => .error (.file e)
    | .error (.language e) => .error (.reported e.message)

/-- What is said about a document in a language that is not enabled. -/
def notEnabledMessage (language : Text) : Text :=
  "Language '" ++ language ++ "' is not enabled; "
    ++ "add it to classfold.supportedLanguages (see `classfold config init`)."

/-- A document after its scan: the session, its editor and the outcome of the scan. -/
structure Scanned where
  session : Session
  editor : Editor
  result : Classification

/-- Scans the document of a file under the settings of a settings file. -/
def openSession (fs : Files) (store path : Path) (language : Option Text)
    (selections : List Selection) : Except Failure Scanned × List Event :=
  match FileStore.source fs store with
  | .error e => (.error (.file e), [])
  | .ok src =>
    let (session, first) := Session.load src none {}
    match openDocument fs path language with
    | .error f => (.error f, first)
    | .ok d =>
      let editor : Editor := ⟨d, selections⟩
      let (session, second) := session.activate editor
      match session.result with
      | none => (.error (.reported (notEnabledMessage d.language)), first ++ second)
      | some result => (.ok ⟨session, editor, result⟩, first ++ second)

/-- The outcome of a command that prints something of a scanned document. -/
def printScanned (fs : Files) (scan : Except Failure Scanned × List Event)
    (print : Scanned → Except Failure Text) : Outcome :=
  match scan.1 with
  | .error f => { files := fs, failure := some f, events := scan.2 }
  | .ok s =>
    match print s with
    | .error f => { files := fs, failure := some f, events := scan.2 }
    | .ok output => { files := fs, output, events := scan.2 }

/-- Lists the spans of a document. -/
def runScan (fs : Files) (store path : Path) (language : Option Text)
    (selections : List Selection) : Outcome :=
  printScanned fs (openSession fs store path language selections) fun s => .ok (scanText s.result)

/-- Draws a document. -/
def runShow (fs : Files) (store path : Path) (language : Option Text)
    (selections : List Selection) : Outcome :=
  printScanned fs (openSession fs store path language selections) fun s =>
    .ok (drawingText (s.session.view.draw s.editor.document))

/-- Shows the class list at a position in its layout. -/
def runPreview (fs : Files) (store path : Path) (place : Text) (position : Position)
    (language : Option Text) : Outcome :=
  printScanned fs (openSession fs store path language []) fun s =>
    match (s.session.hover position).filter fun t => !t.isEmpty with
    | none => .error (.reported ("No folded class list at " ++ place ++ "."))
    | some t => .ok (previewText t)

/-! ### Settings -/

/-- Turns automatic folding on or off. -/
def runToggle (fs : Files) (store : Path) : Outcome :=
  match FileStore.source fs store with
  | .error e => { files := fs, failure := some (.file e) }
  | .ok src =>
    let (session, first) := Session.load src none {}
    let session := session.flip
    let enabled := session.settings.autoFold
    match FileStore.set fs store Setting.autoFold.key (.bool enabled) with
    | (⟨fs, some e⟩, second) =>
      { files := fs, failure := some (.file e), events := first ++ second }
    | (⟨fs, none⟩, second) =>
      { files := fs
        output := markupLine ("Auto fold "
          ++ (if enabled then "[green]enabled[/green]".toList
            else "[yellow]disabled[/yellow]".toList))
        events := first ++ second ++ (session.afterFlip none).2 }

/-- Shows the settings in force. -/
def runShowSettings (fs : Files) (store : Path) : Outcome :=
  match FileStore.source fs store with
  | .error e => { files := fs, failure := some (.file e) }
  | .ok src =>
    let (settings, events) := Settings.load src
    { files := fs
      output := markupLine ("Settings file: " ++ store.text) ++ settingsText settings
      events }

/-- Writes a settings file with the recommended settings. -/
def runInitSettings (fs : Files) (store : Path) (force : Bool) : Outcome :=
  if fs.doesExist store && !force then
    { files := fs
      failure := some (.reported (store.text ++ " already exists; use --force to overwrite.")) }
  else
    match FileStore.writeAll fs store Settings.recommended.members with
    | ⟨fs, some e⟩ => { files := fs, failure := some (.file e) }
    | ⟨fs, none⟩ => { files := fs, output := markupLine ("[green]Wrote[/green] " ++ store.text) }

/-- The key that is meant by a key without the scope. -/
def qualifiedKey (key : Text) : Text := if key.contains '.' then key else Setting.qualify key

/-- The value that is typed: JSON, or else the text itself. -/
def typedValue (raw : Text) : Json := (Json.read? raw).getD (.str raw)

/-- The keys that can be set. -/
def knownKeys : List Text := Setting.all.map Setting.key ++ [Setting.wrapKey]

/-- What is said about a key that cannot be set. -/
def unknownKeyMessage (key : Text) : Text :=
  "Unknown setting '" ++ key ++ "'. Known: "
    ++ (Json.arr ((knownKeys.mergeSort Text.le).map .str)).shown

/-- Writes one setting. -/
def runSetSetting (fs : Files) (store : Path) (key : Text) (value : Json) : Outcome :=
  match FileStore.set fs store key value with
  | (⟨fs, some e⟩, events) => { files := fs, failure := some (.file e), events }
  | (⟨fs, none⟩, events) =>
    { files := fs
      output := markupLine ("[green]Set[/green] " ++ key ++ " = " ++ value.compact)
      events }

/-! ### Watching -/

/-- What happens in a watched directory at one time: files are written and removed, and changes are
announced; or the user interrupts the program instead of an announcement. -/
structure Batch where
  writes : List (Path × Item) := []
  drops : List Path := []
  changes : List Change := []
  isInterrupt : Bool := false

/-- The tree with something put where a path leads; directories are made on the way. -/
def putItem (fs : Files) (entry : Path × Item) : Files :=
  match entry.2 with
  | .directory => (fs.ensureDirectories entry.1.anchor entry.1.names.reverse).files
  | .file bytes => ((fs.ensureParent entry.1).andThen (·.writeBytes entry.1 bytes)).files

/-- The tree after the writes and removals of a batch. -/
def Batch.apply (b : Batch) (fs : Files) : Files :=
  b.drops.foldl Files.remove (b.writes.foldl putItem fs)

/-- A watching session: its editor is that of the file scanned last. -/
structure Watching where
  session : Session := {}
  editor : Option Editor := none
  output : Text := []
  events : List Event := []

namespace Watching

/-- What is printed about a file after its scan. -/
def summary (path : Path) (language : Text) (result : Option Classification) : Text :=
  match result with
  | none => path.text ++ ": [dim]language '" ++ language ++ "' not enabled[/dim]"
  | some c =>
    path.text ++ ": [cyan]" ++ Text.ofNat c.folded.length ++ " folded[/cyan], [dim]"
      ++ Text.ofNat c.faded.length ++ " faded[/dim], [green]"
      ++ Text.ofNat c.unfolded.length ++ " unfolded[/green]"

/-- Adds events. -/
def report (w : Watching) (events : List Event) : Watching :=
  { w with events := w.events ++ events }

/-- Scans a document and prints the summary of its file. -/
def scanFile (w : Watching) (path : Path) (d : Document) : Watching :=
  let editor : Editor := ⟨d, []⟩
  let (session, events) := w.session.activate editor
  { session, editor := some editor
    output := w.output ++ markupLine (summary path d.language session.result)
    events := w.events ++ events }

/-- Scans files one after the other. Files that are gone or are no text are passed over; any other
error ends the call. -/
def scanFiles (fs : Files) (w : Watching) : List Path → Watching
  | [] => w
  | path :: paths =>
    match Document.openFile fs path.text none with
    | .ok d => scanFiles fs (w.scanFile path d) paths
    | .error (.missing _) => scanFiles fs (w.report [.fileSkipped path .notFound]) paths
    | .error (.unreadable .notUtf8) =>
      scanFiles fs (w.report [.fileSkipped path .notUtf8]) paths
    | .error _ => w.report [.callbackFailed]

/-- Whether a path comes before another one in a summary, or is the same. -/
def pathsLe : List Text → List Text → Bool
  | [], _ => true
  | _ :: _, [] => false
  | p :: ps, q :: qs => if p = q then pathsLe ps qs else Text.le p q

/-- Handles changed files: the settings are read anew, and then the files are scanned. -/
def handle (fs : Files) (store : Path) (w : Watching) (files : List Path) : Watching :=
  match FileStore.source fs store with
  | .error _ => w.report [.callbackFailed]
  | .ok src =>
    let (session, events) := w.session.load src w.editor
    let w := { w with session }.report events
    w.scanFiles fs (files.mergeSort fun p q => pathsLe p.components q.components)

/-- Takes a batch that is announced. -/
def take (fs : Files) (store : Path) (w : Watching) (b : Batch) : Watching :=
  let files := Change.reported b.changes
  if files.isEmpty then w
  else (w.report [.changesDetected files.length]).handle fs store files

/-- Takes batches until the user interrupts or none are left, as a `Watcher` hands them on that is
started and waited for. -/
def run (store directory : Path) (fs : Files) (w : Watching) : List Batch → Files × Watching
  | [] => (fs, w.report [.watchStopped directory])
  | b :: bs =>
    let fs := b.apply fs
    if b.isInterrupt then (fs, { w with output := w.output ++ markupLine "Stopped." })
    else run store directory fs (w.take fs store b) bs

end Watching

/-- Watches a directory. -/
def runWatch (fs : Files) (store directory : Path) (batches : List Batch) : Outcome :=
  let first : Watching := {
    output := markupLine ("[green]Watching[/green] " ++ directory.text ++ " (Ctrl+C to stop)")
    events := [.watchStarted directory] }
  let (fs, w) := first.run store directory fs batches
  { files := fs, output := w.output, events := w.events }

/-! ### Commands -/

/-- Runs a command that needs the settings file. -/
def withStore (fs : Files) (env : Environment) (inv : Invocation) (run : Path → Outcome) :
    Outcome :=
  match FileStore.path (inv.settings.or env.settings) env.home with
  | .error e => { files := fs, failure := some (.noHome e) }
  | .ok store => run store

/-- Runs a command with selections, which have to be well-formed before anything else is looked at. -/
def withSelections (fs : Files) (texts : List Text) (run : List Selection → Outcome) : Outcome :=
  match Selection.allOfTexts texts with
  | .error e => { files := fs, failure := some (.badPlace e) }
  | .ok selections => run selections

/-- Runs a command. The batches are what a watching command sees. -/
def Invocation.run (fs : Files) (env : Environment) (batches : List Batch) (inv : Invocation) :
    Outcome :=
  match inv.command with
  | .scan path language texts =>
    withSelections fs texts fun selections =>
      withStore fs env inv fun store => runScan fs store (.ofText path) language selections
  | .show path language texts =>
    withSelections fs texts fun selections =>
      withStore fs env inv fun store => runShow fs store (.ofText path) language selections
  | .preview path place language =>
    match Position.ofText place with
    | .error e => { files := fs, failure := some (.badPlace e) }
    | .ok position =>
      withStore fs env inv fun store => runPreview fs store (.ofText path) place position language
  | .format classList => { files := fs, output := formatText classList }
  | .toggle => withStore fs env inv fun store => runToggle fs store
  | .watch directory =>
    let directory := Path.ofText directory
    if fs.isDirectory directory then
      withStore fs env inv fun store => runWatch fs store directory batches
    else { files := fs, failure := some (.reported ("Not a directory: " ++ directory.text)) }
  | .showSettings => withStore fs env inv fun store => runShowSettings fs store
  | .initSettings force => withStore fs env inv fun store => runInitSettings fs store force
  | .setSetting key value =>
    let qualified := qualifiedKey key
    if knownKeys.contains qualified then
      withStore fs env inv fun store => runSetSetting fs store qualified (typedValue value)
    else { files := fs, failure := some (.reported (unknownKeyMessage key)) }
  | .help => { files := fs }

/-- Runs the program on its arguments. -/
def run (fs : Files) (env : Environment) (batches : List Batch) (args : List Text) : Outcome :=
  match Invocation.read args with
  | .error e => { files := fs, failure := some (.misused e) }
  | .ok inv =>
    let outcome := inv.run fs env batches
    { outcome with events := outcome.shownEvents inv.isVerbose }

/-- A command line that is read runs its command, with the events that it is to show. -/
theorem run_of_read {args : List Text} {inv : Invocation} (h : Invocation.read args = .ok inv)
    (fs : Files) (env : Environment) (batches : List Batch) :
    run fs env batches args = { inv.run fs env batches with
      events := (inv.run fs env batches).shownEvents inv.isVerbose } := by
  rw [run, h]

end AttrFold.Cli
