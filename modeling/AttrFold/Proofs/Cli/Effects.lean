import AttrFold.Proofs.Cli.Toggle

/-!
# What commands do to files

A command only reads, or it saves settings, or it watches while others write (`Command.access`). One
that reads gives back the tree it was given. One that saves ends in a single write of the settings
file, and whatever it looks at comes before (`Saves`).

## The crux

A save can fail after directories were made for the file, so the tree may have changed even then;
the contents of files have not (`saves_of_writeAll`). Everything that can go wrong with the
arguments, the home directory or a file that is no text goes wrong before the tree is touched.

* **`run_effects`** — no run that fails changes a file, no command that only reads changes the tree,
  and a command that saves writes the settings file and leaves every other file as it was.
-/

namespace AttrFold.Cli

open FileStore (held fileText)

variable {fs : Files} {env : Environment} {batches : List Batch} {args : List Text} {inv : Invocation}
  {store : Path} {members : Json.Object} {o : Outcome}

/-- What a command has to do with files. -/
inductive Access where
  | reads
  | saves
  | watches
deriving DecidableEq

/-- What a command has to do with files. -/
def Command.access : Command → Access
  | .scan .. | .show .. | .preview .. | .format _ | .showSettings | .help => .reads
  | .toggle | .initSettings _ | .setSetting .. => .saves
  | .watch _ => .watches

/-- The members that a command saves in a settings file. -/
def Command.saved? (fs : Files) (store : Path) : Command → Option Json.Object
  | .toggle => some (switched fs store !(inForce fs store).autoFold)
  | .initSettings _ => some Settings.recommended.members
  | .setSetting key value => some ((held fs store).put (qualifiedKey key) (typedValue value))
  | .scan .. | .show .. | .preview .. | .format _ | .showSettings | .help | .watch _ => none

/-- A command exits with zero exactly if it has not failed. -/
theorem Outcome.exitCode_eq_zero_iff : o.exitCode = 0 ↔ o.failure = none := by
  unfold exitCode
  cases o.failure with
  | none => simp
  | some f => cases f <;> simp [Failure.exitCode]

/-! ## Saving settings -/

/-- An outcome of saving members in a settings file: they are written, or no content has changed. -/
structure Saves (fs : Files) (store : Path) (members : Json.Object) (o : Outcome) : Prop where
  written : o.failure = none → Files.Written fs store (Text.encode (fileText members)) o.files
  kept : o.failure ≠ none → ∀ l, o.files.content? l = fs.content? l

/-- An outcome that fails with the tree that was given. -/
theorem saves_of_untouched (hfiles : o.files = fs) (hfailure : o.failure ≠ none) :
    Saves fs store members o :=
  ⟨fun h => absurd h hfailure, fun _ l => by rw [hfiles]⟩

/-- An outcome that fails exactly if the settings file could not be written. -/
theorem saves_of_writeAll (hfiles : o.files = (FileStore.writeAll fs store members).files)
    (hfailure : o.failure = (FileStore.writeAll fs store members).error.map .file) :
    Saves fs store members o := by
  cases hwrite : FileStore.writeAll fs store members with
  | mk files error =>
    rw [hwrite] at hfiles hfailure
    rw [FileStore.writeAll] at hwrite
    cases error with
    | none => exact ⟨fun _ => hfiles ▸ Files.written_of_write hwrite, fun h => absurd hfailure h⟩
    | some e =>
      -- directories may have been made, but the file was not written
      refine ⟨fun h => ?_, fun _ l => ?_⟩
      · rw [hfailure] at h
        cases h
      · have hkept := Files.content?_of_write_error (congrArg Files.Attempt.error hwrite) l
        rw [hwrite] at hkept
        rw [hfiles]
        exact hkept

/-- An outcome that fails exactly if a value could not be set. -/
theorem saves_of_set {key : Text} {v : Json} (hfiles : o.files = (FileStore.set fs store key v).1.files)
    (hfailure : o.failure = (FileStore.set fs store key v).1.error.map .file) :
    Saves fs store ((held fs store).put key v) o := by
  by_cases htext : fs.readText store = .error .notUtf8
  · rw [FileStore.set_of_notUtf8 htext] at hfiles hfailure
    exact saves_of_untouched hfiles (by rw [hfailure]; exact Option.some_ne_none _)
  · rw [FileStore.set_eq_writeAll htext] at hfiles hfailure
    exact saves_of_writeAll hfiles hfailure

/-- Setting a key saves the members with that key put in. -/
theorem saves_runSetSetting (fs : Files) (store : Path) (key : Text) (value : Json) :
    Saves fs store ((held fs store).put key value) (runSetSetting fs store key value) := by
  apply saves_of_set <;> unfold runSetSetting <;>
    obtain ⟨⟨files, _ | e⟩, events⟩ := FileStore.set fs store key value <;> rfl

/-- Initialising saves the recommended settings. -/
theorem saves_runInitSettings (fs : Files) (store : Path) (force : Bool) :
    Saves fs store Settings.recommended.members (runInitSettings fs store force) := by
  unfold runInitSettings
  split
  · exact saves_of_untouched rfl (Option.some_ne_none _)
  · apply saves_of_writeAll <;>
      obtain ⟨files, _ | e⟩ := FileStore.writeAll fs store Settings.recommended.members <;> rfl

/-- Toggling saves the members with the switch turned. -/
theorem saves_runToggle (fs : Files) (store : Path) :
    Saves fs store (switched fs store !(inForce fs store).autoFold) (runToggle fs store) := by
  unfold runToggle
  by_cases htext : fs.readText store = .error .notUtf8
  · have hsource : FileStore.source fs store = .error .notUtf8 := by
      rw [FileStore.source, FileStore.readAll_of_notUtf8 htext]
    rw [hsource]
    exact saves_of_untouched rfl (Option.some_ne_none _)
  · obtain ⟨events, hsource⟩ := FileStore.exists_source htext
    -- the session loads what is in force and negates it, whatever is reported meanwhile
    have hflip :
        (Session.load ⟨fun k => (held fs store).get? k, events⟩ none {}).1.flip.settings.autoFold
          = !(inForce fs store).autoFold :=
      congrArg (fun s : Settings => !s.autoFold) (Settings.load_lookup (held fs store) events)
    rw [hsource]
    simp only [hflip]
    apply saves_of_set <;>
      obtain ⟨⟨files, _ | e⟩, events'⟩ :=
        FileStore.set fs store autoKey (.bool !(inForce fs store).autoFold) <;> rfl

/-! ## Each command -/

/-- Printing what was scanned leaves the tree as it is. -/
theorem files_printScanned (fs : Files) (scan : Except Failure Scanned × List Event)
    (print : Scanned → Except Failure Text) : (printScanned fs scan print).files = fs := by
  unfold printScanned
  split
  · rfl
  · split <;> rfl

theorem files_runShowSettings (fs : Files) (store : Path) : (runShowSettings fs store).files = fs := by
  unfold runShowSettings
  split <;> rfl

/-- A command that needs the settings file fails without it, and goes on with it otherwise. -/
theorem withStore_cases (fs : Files) (env : Environment) (inv : Invocation) (act : Path → Outcome) :
    ((withStore fs env inv act).files = fs ∧ (withStore fs env inv act).failure ≠ none) ∨
      ∃ store, FileStore.path (inv.settings.or env.settings) env.home = .ok store
        ∧ withStore fs env inv act = act store := by
  unfold withStore
  split
  · exact .inl ⟨rfl, Option.some_ne_none _⟩
  · next store hpath => exact .inr ⟨store, hpath, rfl⟩

/-- Looking for the settings file leaves the tree as it is. -/
theorem files_withStore {act : Path → Outcome} (h : ∀ store, (act store).files = fs) :
    (withStore fs env inv act).files = fs := by
  rcases withStore_cases fs env inv act with ⟨hfiles, -⟩ | ⟨store, -, hact⟩
  · exact hfiles
  · rw [hact, h]

/-- Reading selections leaves the tree as it is. -/
theorem files_withSelections {texts : List Text} {act : List Selection → Outcome}
    (h : ∀ selections, (act selections).files = fs) : (withSelections fs texts act).files = fs := by
  unfold withSelections
  split
  · rfl
  · exact h _

/-- A command that only reads gives back the tree. -/
theorem files_of_reads (h : inv.command.access = .reads) : (inv.run fs env batches).files = fs := by
  unfold Invocation.run
  cases hcommand : inv.command with
  | scan path language texts =>
    exact files_withSelections fun _ => files_withStore fun _ => files_printScanned fs _ _
  | «show» path language texts =>
    exact files_withSelections fun _ => files_withStore fun _ => files_printScanned fs _ _
  | preview path place language =>
    dsimp only
    split
    · rfl
    · exact files_withStore fun _ => files_printScanned fs _ _
  | format classList => rfl
  | showSettings => exact files_withStore fun store => files_runShowSettings fs store
  | help => rfl
  | toggle | watch _ | initSettings _ | setSetting _ _ =>
    rw [hcommand] at h
    cases h

/-- A command that saves to its settings file does so wherever that file is found, and fails before
it changes anything where none is. -/
theorem saves_withStore {act : Path → Outcome} {saved : Path → Json.Object}
    (h : ∀ store, Saves fs store (saved store) (act store)) :
    ((withStore fs env inv act).files = fs ∧ (withStore fs env inv act).failure ≠ none) ∨
      ∃ store, FileStore.path (inv.settings.or env.settings) env.home = .ok store
        ∧ Saves fs store (saved store) (withStore fs env inv act) := by
  rcases withStore_cases fs env inv act with hfails | ⟨store, hpath, hact⟩
  · exact .inl hfails
  · exact .inr ⟨store, hpath, hact ▸ h store⟩

/-- A command that saves fails before it touches the tree, or goes on to save its members. -/
theorem saves_run (h : inv.command.access = .saves) :
    ((inv.run fs env batches).files = fs ∧ (inv.run fs env batches).failure ≠ none) ∨
      ∃ store members, FileStore.path (inv.settings.or env.settings) env.home = .ok store ∧
        inv.command.saved? fs store = some members ∧
          Saves fs store members (inv.run fs env batches) := by
  unfold Invocation.run
  cases hcommand : inv.command with
  | toggle =>
    refine (saves_withStore (saves_runToggle fs)).imp_right fun ⟨store, hpath, hsaves⟩ => ?_
    exact ⟨store, _, hpath, rfl, hsaves⟩
  | initSettings force =>
    refine (saves_withStore (saves_runInitSettings fs · force)).imp_right
      fun ⟨store, hpath, hsaves⟩ => ?_
    exact ⟨store, _, hpath, rfl, hsaves⟩
  | setSetting key value =>
    dsimp only
    split
    · refine (saves_withStore (saves_runSetSetting fs · _ _)).imp_right
        fun ⟨store, hpath, hsaves⟩ => ?_
      exact ⟨store, _, hpath, rfl, hsaves⟩
    · exact .inl ⟨rfl, Option.some_ne_none _⟩
  | _ =>
    rw [hcommand] at h
    cases h

/-- A command that watches fails before anything is written. -/
theorem files_of_watches (h : inv.command.access = .watches)
    (hfailure : (inv.run fs env batches).failure ≠ none) : (inv.run fs env batches).files = fs := by
  obtain ⟨directory, hcommand⟩ : ∃ directory, inv.command = .watch directory := by
    cases hcommand : inv.command with
    | watch directory => exact ⟨directory, rfl⟩
    | _ =>
      rw [hcommand] at h
      cases h
  unfold Invocation.run at hfailure ⊢
  rw [hcommand] at hfailure ⊢
  dsimp only at hfailure ⊢
  split
  · next hdirectory =>
    rw [if_pos hdirectory] at hfailure
    rcases withStore_cases fs env inv (runWatch fs · (.ofText directory) batches) with
      ⟨hfiles, -⟩ | ⟨store, -, hrun⟩
    · exact hfiles
    · -- a watch that has begun does not fail
      rw [hrun] at hfailure
      exact absurd rfl hfailure
  · rfl

/-- **Commands change the settings file or nothing.** No run that fails changes the content of a
file, no command that only reads changes the tree at all, and a command that saves settings and
succeeds has written them to the settings file and left the content of every other file as it was.
-/
theorem run_effects (fs : Files) (env : Environment) (batches : List Batch) (args : List Text) :
    let o := run fs env batches args
    (o.exitCode ≠ 0 → ∀ l, o.files.content? l = fs.content? l) ∧
      ∀ inv, Invocation.read args = .ok inv →
        (inv.command.access = .reads → o.files = fs) ∧
        (inv.command.access = .saves → o.exitCode = 0 →
          ∃ store members, FileStore.path (inv.settings.or env.settings) env.home = .ok store ∧
            inv.command.saved? fs store = some members ∧
            Files.Written fs store (Text.encode (fileText members)) o.files) := by
  intro o
  cases hread : Invocation.read args with
  | error e =>
    have ho : o = { files := fs, failure := some (.misused e) } := by
      show run fs env batches args = _
      rw [run, hread]
    rw [ho]
    refine ⟨fun _ _ => rfl, fun inv heq => ?_⟩
    cases heq
  | ok inv =>
    -- showing fewer events changes neither the tree nor the failure
    have ho : o.files = (inv.run fs env batches).files ∧
      o.failure = (inv.run fs env batches).failure := by
      show (run fs env batches args).files = _ ∧ (run fs env batches args).failure = _
      rw [run_of_read hread]
      exact ⟨rfl, rfl⟩
    rw [ne_eq, Outcome.exitCode_eq_zero_iff, ho.1, ho.2]
    refine ⟨fun hfailure l => ?_, fun inv' heq => ?_⟩
    · cases haccess : inv.command.access with
      | reads => rw [files_of_reads haccess]
      | watches => rw [files_of_watches haccess hfailure]
      | saves =>
        rcases saves_run haccess with ⟨hfiles, -⟩ | ⟨store, members, -, -, hsaves⟩
        · rw [hfiles]
        · exact hsaves.kept hfailure l
    · obtain rfl := Except.ok.inj heq
      refine ⟨fun haccess => files_of_reads haccess, fun haccess hsuccess => ?_⟩
      rcases saves_run haccess with ⟨-, hfailure⟩ | ⟨store, members, hpath, hsaved, hsaves⟩
      · exact absurd hsuccess hfailure
      · exact ⟨store, members, hpath, hsaved, hsaves.written hsuccess⟩

/-- A toggle writes next to another file, and cannot write below it. -/
theorem run_effects_toggle :
    let fs : Files := { items := [(["a"], .file .empty)] }
    let env : Environment := ⟨"/home", none⟩
    let below := run fs env [] ["--settings", "a/s.json", "toggle"]
    let beside := run fs env [] ["--settings", "s.json", "toggle"]
    below.exitCode = 1 ∧ (∀ l, below.files.content? l = fs.content? l) ∧
      beside.exitCode = 0 ∧ beside.files.content? ["a"] = some .empty ∧
        beside.files.readBytes "s.json"
          = .ok (Text.encode (fileText [(autoKey, .bool !Settings.autoFold {})])) := by
  intro fs env below beside
  have hbelow : below.exitCode = 1 := by decide +kernel
  have hbeside : beside.exitCode = 0 := by decide +kernel
  have hread : Invocation.read ["--settings", "s.json", "toggle"]
      = .ok ⟨some "s.json", false, .toggle⟩ := by decide +kernel
  obtain ⟨store, members, hpath, hsaved, hwritten⟩ :=
    ((run_effects fs env [] ["--settings", "s.json", "toggle"]).2 _ hread).2 rfl hbeside
  have hnamed : FileStore.path (some "s.json") "/home" = .ok "s.json" := by decide +kernel
  obtain rfl : Path.ofText "s.json" = store := Except.ok.inj (hnamed.symm.trans hpath)
  have hheld : held fs "s.json" = [] := by decide +kernel
  have hmembers : [(autoKey, Json.bool !Settings.autoFold {})] = members := by
    refine Option.some.inj (Eq.trans ?_ hsaved)
    simp only [Command.saved?, switched, inForce, hheld]
    rfl
  rw [hmembers]
  have hother := hwritten.others ["a"] (by decide +kernel)
  exact ⟨hbelow, (run_effects fs env [] _).1 (by rw [hbelow]; decide), hbeside, hother,
    hwritten.readBytes⟩

end AttrFold.Cli
