import AttrFold.Cli.Run
import AttrFold.Proofs.Session
import AttrFold.Proofs.Store.Settings

/-!
# What a watching command prints

One session lives through a whole watch. When a batch is handled, its editor, its outcome and its
view are still those of the file that was scanned last, and loading the settings has that file
scanned once more. A call may also have ended early and left the session anywhere on the way.

## The crux

Nothing that is left over is read again. Loading replaces the settings and the column at which lines are
wrapped, and a file is scanned from no outcome (`result_activate`). So whatever state a batch finds the
session in, it prints what the tree holds at that time (`output_handle`), and the run is a chain of such
batches (`output_run`).

* **`watch_prints_each_batch_alone`** — what is printed batch by batch, and for which files.
-/

namespace AttrFold.Cli

open FileStore (held)

variable {fs : Files} {env : Environment} {args : List Text} {store directory : Path}
  {members : Json.Object} {p : Path} {d : Document}

namespace Watching

/-! ## One file

What is printed about a file is fixed by its path, its document and the members of the settings file. -/

/-- How a document is shown under the settings of a settings file that holds the given members, if its
language is enabled there. -/
def outcome? (members : Json.Object) (d : Document) : Option Classification :=
  let settings := (Settings.load (.ofObject members)).1
  if settings.supports d.language then
    some (settings.classify [] (Settings.wrapColumn (.ofObject members)).1
      (d.spans settings.foldStyle.mode))
  else none

/-- The line that is printed about a file. -/
def line (members : Json.Object) (file : Path × Document) : Text :=
  markupLine (summary file.1 file.2.language (outcome? members file.2))

/-- A session works with the settings of a settings file that holds the given members. -/
structure Configured (s : Session) (members : Json.Object) : Prop where
  settings : s.settings = (Settings.load (.ofObject members)).1
  wrapColumn : s.wrapColumn = (Settings.wrapColumn (.ofObject members)).1

variable {s : Session}

/-- A rescan keeps the settings that a session has loaded. -/
theorem Configured.update (h : Configured s members) (editor : Option Editor) :
    Configured (s.update editor).1 members := by
  obtain ⟨hsettings, hwrap⟩ := s.update_config editor
  exact ⟨hsettings.trans h.settings, hwrap.trans h.wrapColumn⟩

/-- Loading leaves nothing of the settings that were in force before, whichever editor is scanned. -/
theorem configured_load (events : List Event) (editor : Option Editor) (s : Session) :
    Configured (s.load ⟨fun k => members.get? k, events⟩ editor).1 members := by
  have hconfigured : Configured (s.configure ⟨fun k => members.get? k, events⟩).1 members :=
    ⟨Settings.load_lookup members events, rfl⟩
  exact hconfigured.update editor

/-- A scan starts from no outcome, so an earlier one does not show when the language is not enabled. -/
theorem result_activate (h : Configured s members) (d : Document) :
    (s.activate ⟨d, []⟩).1.result = outcome? members d := by
  unfold Session.activate outcome?
  cases hlang : s.settings.supports d.language with
  | true =>
    rw [Session.update_supported hlang, ← h.settings, ← h.wrapColumn]
    exact (if_pos hlang).symm
  | false =>
    rw [Session.update_unsupported hlang, ← h.settings]
    exact (if_neg (by rw [hlang]; exact Bool.false_ne_true)).symm

/-- **One file.** Its line is printed, and the settings stay for the files after it. -/
theorem Configured.scanFile {w : Watching} (h : Configured w.session members) (p : Path)
    (d : Document) :
    Configured (w.scanFile p d).session members
      ∧ (w.scanFile p d).output = w.output ++ line members (p, d) := by
  refine ⟨?_, ?_⟩
  · have hforgotten : Configured { w.session with result := none } members := ⟨h.settings, h.wrapColumn⟩
    exact hforgotten.update (some ⟨d, []⟩)
  · show w.output ++ markupLine (summary p d.language (w.session.activate ⟨d, []⟩).1.result) = _
    rw [result_activate h]
    rfl

/-! ## One batch -/

/-- The files that are scanned, with their documents. Files that are gone or are no text are passed
over, and the first other error ends the list. -/
def opened (fs : Files) : List Path → List (Path × Document)
  | [] => []
  | p :: ps =>
    match Document.openFile fs p.text none with
    | .ok d => (p, d) :: opened fs ps
    | .error (.missing _) | .error (.unreadable .notUtf8) => opened fs ps
    | .error _ => []

/-- The files of a batch that a line is printed about: none, if the settings file is no text. -/
def summarised (fs : Files) (store : Path) (files : List Path) : List (Path × Document) :=
  match fs.readText store with
  | .error .notUtf8 => []
  | _ => opened fs (files.mergeSort fun p q => pathsLe p.components q.components)

/-- What is printed about a batch. -/
def printed (fs : Files) (store : Path) (files : List Path) : Text :=
  (summarised fs store files).flatMap (line (held fs store))

/-- No file is summarised while the bytes of the settings file are no text. -/
theorem summarised_of_notUtf8 (h : fs.readText store = .error .notUtf8) (files : List Path) :
    summarised fs store files = [] := by
  rw [summarised, h]

/-- Otherwise the files of a batch are summarised in the order of their paths. -/
theorem summarised_of_ne_notUtf8 (h : fs.readText store ≠ .error .notUtf8) (files : List Path) :
    summarised fs store files
      = opened fs (files.mergeSort fun p q => pathsLe p.components q.components) := by
  unfold summarised
  split
  · next htext => exact absurd htext h
  · rfl

/-- A file is scanned in the language that its path tells, with the text that it holds. -/
theorem of_mem_opened {ps : List Path} (h : (p, d) ∈ opened fs ps) :
    p ∈ ps ∧ Document.openFile fs p.text none = .ok d := by
  induction ps with
  | nil => cases h
  | cons q ps ih =>
    have hrest : (p, d) ∈ opened fs ps → p ∈ q :: ps ∧ Document.openFile fs p.text none = .ok d :=
      fun hmem => ⟨List.mem_cons_of_mem q (ih hmem).1, (ih hmem).2⟩
    unfold opened at h
    split at h
    · next hopen =>
      rcases List.mem_cons.mp h with heq | hmem
      · obtain ⟨rfl, rfl⟩ := Prod.mk.inj heq
        exact ⟨List.mem_cons_self, hopen⟩
      · exact hrest hmem
    · exact hrest h
    · exact hrest h
    · cases h

/-- A file opens as a document of its text, in the language that its path has. -/
theorem openFile_eq_ok_iff {path : Text} : Document.openFile fs path none = .ok d ↔
    ∃ t l, fs.readText (.ofText path) = .ok t ∧ Language.ofPath (.ofText path) = .ok l
      ∧ d = ⟨t, l.id⟩ := by
  unfold Document.openFile
  cases fs.readText (.ofText path) with
  | error e => cases e <;> simp
  | ok t =>
    dsimp only [Option.filter]
    cases Language.ofPath (.ofText path) with
    | error e => simp
    | ok l => simp [eq_comm]

/-- Going through the files of a batch prints a line for each that is opened. -/
theorem Configured.output_scanFiles {w : Watching} (h : Configured w.session members) (fs : Files)
    (ps : List Path) :
    (scanFiles fs w ps).output = w.output ++ (opened fs ps).flatMap (line members) := by
  induction ps generalizing w with
  | nil => exact (List.append_nil _).symm
  | cons p ps ih =>
    unfold scanFiles opened
    cases Document.openFile fs p.text none with
    | ok d =>
      obtain ⟨hconfigured, houtput⟩ := h.scanFile p d
      dsimp only
      rw [ih hconfigured, houtput, List.flatMap_cons, List.append_assoc]
    | error e =>
      cases e with
      | missing path => exact ih (w := w.report _) h
      | unreadable e =>
        cases e with
        | notUtf8 => exact ih (w := w.report _) h
        | _ => exact (List.append_nil _).symm
      | language unknown => exact (List.append_nil _).symm

/-- **One batch.** What it prints does not depend on the state that it finds the session in. -/
theorem output_handle (fs : Files) (store : Path) (w : Watching) (files : List Path) :
    (w.handle fs store files).output = w.output ++ printed fs store files := by
  unfold handle printed
  by_cases htext : fs.readText store = .error .notUtf8
  · have hsource : FileStore.source fs store = .error .notUtf8 := by
      rw [FileStore.source, FileStore.readAll_of_notUtf8 htext]
    rw [hsource, summarised_of_notUtf8 htext]
    exact (List.append_nil _).symm
  · obtain ⟨events, hsource⟩ := FileStore.exists_source htext
    rw [hsource, summarised_of_ne_notUtf8 htext]
    exact Configured.output_scanFiles (configured_load events w.editor w.session) fs _

/-- Taking a batch adds what is printed for the files that it reports. -/
theorem output_take (fs : Files) (store : Path) (w : Watching) (b : Batch) :
    (w.take fs store b).output = w.output ++ printed fs store (Change.reported b.changes) := by
  unfold take
  dsimp only
  split
  · next hempty =>
    -- a batch without supported files is not handed on, and has nothing to print
    rw [List.isEmpty_iff.mp hempty, printed]
    by_cases htext : fs.readText store = .error .notUtf8
    · rw [summarised_of_notUtf8 htext]
      exact (List.append_nil _).symm
    · rw [summarised_of_ne_notUtf8 htext, List.mergeSort_nil]
      exact (List.append_nil _).symm
  · exact output_handle fs store _ _

/-! ## All batches -/

/-- The batches that are taken before the user interrupts: for each the tree that it finds, and the
files that it hands on. -/
def taken (fs : Files) : List Batch → List (Files × List Path)
  | [] => []
  | b :: bs =>
    if b.isInterrupt then [] else (b.apply fs, Change.reported b.changes) :: taken (b.apply fs) bs

/-- What is printed in the end. -/
def farewell (batches : List Batch) : Text :=
  if batches.any Batch.isInterrupt then markupLine "Stopped." else []

/-- A run adds what is printed for each batch that it takes, and the farewell at its end. -/
theorem output_run (store directory : Path) (fs : Files) (w : Watching) (batches : List Batch) :
    (run store directory fs w batches).2.output
      = w.output ++ (taken fs batches).flatMap (fun b => printed b.1 store b.2)
        ++ farewell batches := by
  induction batches generalizing fs w with
  | nil => simp [run, report, taken, farewell]
  | cons b bs ih =>
    unfold run taken farewell
    dsimp only
    by_cases hinterrupt : b.isInterrupt = true
    · simp [hinterrupt]
    · rw [if_neg hinterrupt, if_neg hinterrupt, ih, output_take, List.flatMap_cons, List.any_cons,
        Bool.eq_false_iff.mpr hinterrupt, Bool.false_or]
      simp only [List.append_assoc, farewell]

end Watching

/-! ## The command -/

open Watching

/-- The arguments ask for a watch of a directory, and this is the settings file that they or the
environment name. -/
def AsksWatch (fs : Files) (env : Environment) (args : List Text) (store directory : Path) : Prop :=
  ∃ inv name, Invocation.read args = .ok inv ∧ inv.command = .watch name ∧ directory = .ofText name
    ∧ fs.isDirectory directory = true
    ∧ FileStore.path (inv.settings.or env.settings) env.home = .ok store

/-- Arguments that ask for watching print what the watching command prints. -/
theorem output_run_of_asksWatch (h : AsksWatch fs env args store directory) (batches : List Batch) :
    (run fs env batches args).output = (runWatch fs store directory batches).output := by
  obtain ⟨inv, name, hread, hcommand, rfl, hdirectory, hstore⟩ := h
  have hrun : inv.run fs env batches = runWatch fs store (.ofText name) batches := by
    rw [Invocation.run, hcommand]
    simp only [hdirectory, if_true, withStore, hstore]
  rw [run_of_read hread, hrun]

/-- **A watch prints each batch by itself.** The lines about a batch are those of the files that it
hands on and that can be opened in the tree it finds, each fixed by the path, the text of the file
and what the settings file holds in that tree. -/
theorem watch_prints_each_batch_alone {fs : Files} {env : Environment} {args : List Text}
    {store directory : Path} (h : AsksWatch fs env args store directory) (batches : List Batch) :
    (run fs env batches args).output
        = markupLine ("[green]Watching[/green] " ++ directory.text ++ " (Ctrl+C to stop)")
          ++ (taken fs batches).flatMap (fun b =>
              (summarised b.1 store b.2).flatMap (line (held b.1 store)))
          ++ farewell batches ∧
      ∀ b ∈ taken fs batches, ∀ file ∈ summarised b.1 store b.2,
        file.1 ∈ b.2 ∧ b.1.readText store ≠ .error .notUtf8 ∧
          ∃ t l, b.1.readText (.ofText file.1.text) = .ok t ∧
            Language.ofPath (.ofText file.1.text) = .ok l ∧ file.2 = ⟨t, l.id⟩ := by
  refine ⟨?_, fun b _ file hfile => ?_⟩
  · rw [output_run_of_asksWatch h]
    exact output_run store directory fs _ batches
  · have htext : b.1.readText store ≠ .error .notUtf8 := by
      intro htext
      rw [summarised_of_notUtf8 htext] at hfile
      cases hfile
    rw [summarised_of_ne_notUtf8 htext] at hfile
    obtain ⟨hmem, hopen⟩ := of_mem_opened hfile
    exact ⟨List.mem_mergeSort.mp hmem, htext, openFile_eq_ok_iff.mp hopen⟩

/-- A page is written and then left as it is, while the settings that enable its language are
removed. -/
theorem watch_prints_each_batch_alone_disabled :
    let store : Path := "s.json"
    let file : Path := "a.html"
    let page : Text := "class='a'"
    let members : Json.Object := [(Setting.supportedLanguages.key, .arr [.str "html"])]
    let settings : Text := FileStore.fileText members
    let first : Batch := {
      writes := [(store, .file (Text.encode settings)), (file, .file (Text.encode page))]
      changes := [⟨.added, file⟩] }
    let second : Batch := { drops := [store], changes := [⟨.modified, file⟩] }
    let env : Environment := ⟨"/home", none⟩
    let args : List Text := ["--settings", "s.json", "watch"]
    AsksWatch {} env args store "." ∧ (run {} env [first, second] args).output
      = "Watching . (Ctrl+C to stop)\n".toList ++ "a.html: 0 folded, 0 faded, 1 unfolded\n".toList
        ++ "a.html: language 'html' not enabled\n".toList := by
  intro store file page members settings first second env args
  have hasks : AsksWatch {} env args store "." :=
    ⟨⟨some "s.json", false, .watch "."⟩, ".", by decide +kernel, rfl, rfl, by decide +kernel,
      by decide +kernel⟩
  -- the trees that the two batches find
  let both : Files :=
    { items := [(["s.json"], .file (Text.encode settings)), (["a.html"], .file (Text.encode page))] }
  let one : Files := { items := [(["a.html"], .file (Text.encode page))] }
  have hfirst : first.apply {} = both := rfl
  have hsecond : second.apply both = one := rfl
  have hadded : Change.reported first.changes = [file] := by decide +kernel
  have hmodified : Change.reported second.changes = [file] := by decide +kernel
  have htaken : taken {} [first, second] = [(both, [file]), (one, [file])] := by
    simp only [taken, hfirst, hsecond, hadded, hmodified]
    rfl
  have hsettings : both.readText store = .ok settings :=
    Files.readText_of_encode rfl (by decide +kernel)
  have hmissing : one.readText store = .error .notFound := rfl
  have hopened : ∀ {fs : Files}, fs.readBytes file = .ok (Text.encode page) →
      opened fs [file] = [(file, ⟨page, "html"⟩)] := by
    intro fs hbytes
    have hlanguage : Language.ofPath (.ofText file.text) = .ok .html := by decide +kernel
    have hopen : Document.openFile fs file.text none = .ok ⟨page, "html"⟩ :=
      openFile_eq_ok_iff.mpr
        ⟨page, .html, Files.readText_of_encode hbytes (by decide +kernel), hlanguage, rfl⟩
    simp only [opened, hopen]
  have hboth : summarised both store [file] = [(file, ⟨page, "html"⟩)] := by
    rw [summarised_of_ne_notUtf8 (by rw [hsettings]; nofun), List.mergeSort_singleton, hopened rfl]
  have hone : summarised one store [file] = [(file, ⟨page, "html"⟩)] := by
    rw [summarised_of_ne_notUtf8 (by rw [hmissing]; nofun), List.mergeSort_singleton, hopened rfl]
  have hkeys : (Json.obj members).Distinct :=
    .obj (by decide) (List.forall_mem_singleton.mpr (.arr (List.forall_mem_singleton.mpr (.str _))))
  have hfree : (Json.obj members).FloatFree :=
    .obj (List.forall_mem_singleton.mpr (.arr (List.forall_mem_singleton.mpr (.str _))))
  have hobject : Json.read? settings = some (.obj members) := by
    have hsorted : Json.sortedObject members = members := List.mergeSort_singleton _
    rw [← hsorted]
    exact hkeys.read?_indented hfree
  have hheld : held both store = members := by
    rw [held, hsettings]
    simp only [hobject]
  have hheld' : held one store = [] := by rw [held, hmissing]
  obtain ⟨houtput, -⟩ := watch_prints_each_batch_alone hasks [first, second]
  refine ⟨hasks, ?_⟩
  rw [houtput, htaken]
  simp only [List.flatMap_cons, List.flatMap_nil, List.append_nil, hboth, hone, hheld, hheld']
  decide +kernel

end AttrFold.Cli
