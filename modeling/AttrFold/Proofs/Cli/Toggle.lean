import Mathlib.Logic.Function.Iterate
import AttrFold.Cli.Run
import AttrFold.Proofs.Store.Settings

/-!
# Turning automatic folding on and off again

A toggle reads the settings file, negates what is in force and writes the whole file
(`runToggle_of_set`). What is in force may be a default, since the stored value may be missing or of
another kind. From the first run on the file holds what it held at first, with one value that is
switched to and fro (`Toggled.step`).

* **`toggle_repeatedly`** — after any number of runs: the stored value, what else is stored and in
  force, and the bytes of the file.
-/

namespace AttrFold.Cli

open FileStore (Usable held readAll source fileText)
open Json (Agrees)

variable {fs fs' : Files} {env : Environment} {batches : List Batch} {args : List Text}
  {inv : Invocation}
  {store : Path}

/-- The tree after the program was run a number of times on the same arguments. -/
def filesAfter (fs : Files) (env : Environment) (batches : List Batch) (args : List Text) : Nat → Files
  | 0 => fs
  | n + 1 => (run (filesAfter fs env batches args n) env batches args).files

/-- The key under which it is stored whether documents are folded automatically. -/
abbrev autoKey : Text := Setting.autoFold.key

/-- The arguments ask for a toggle, and this is the settings file that they or the environment name. -/
def AsksToggle (env : Environment) (args : List Text) (store : Path) : Prop :=
  ∃ inv, Invocation.read args = .ok inv ∧ inv.command = .toggle
    ∧ FileStore.path (inv.settings.or env.settings) env.home = .ok store

/-- Arguments that ask for a toggle run one, on the store that they name. -/
theorem run_of_asksToggle (h : AsksToggle env args store) (fs : Files) (batches : List Batch) :
    (run fs env batches args).files = (runToggle fs store).files
      ∧ (run fs env batches args).failure = (runToggle fs store).failure := by
  obtain ⟨inv, hread, hcommand, hstore⟩ := h
  have hrun : inv.run fs env batches = runToggle fs store := by
    rw [Invocation.run, hcommand]
    simp only [withStore, hstore]
  rw [run_of_read hread, hrun]
  exact ⟨rfl, rfl⟩

/-- A toggle stores the negation of what is in force. -/
theorem runToggle_of_set {src : Source} {enabled : Bool} (hsource : source fs store = .ok src)
    (henabled : (!(Settings.load src).1.autoFold) = enabled)
    (hset : (FileStore.set fs store autoKey (.bool enabled)).1 = ⟨fs', none⟩) :
    (runToggle fs store).files = fs' ∧ (runToggle fs store).failure = none := by
  have hflip : (Session.load src none {}).1.flip.settings.autoFold = enabled := henabled
  cases hstep : FileStore.set fs store autoKey (.bool enabled) with
  | mk attempt events =>
    rw [hstep] at hset
    obtain rfl : attempt = ⟨fs', none⟩ := hset
    rw [runToggle, hsource]
    simp only [hflip, hstep, and_self]

/-! ## Run after run -/

/-- The settings in force by a settings file. -/
abbrev inForce (fs : Files) (store : Path) : Settings := (Settings.load (.ofObject (held fs store))).1

/-- The members that a settings file had at first, with automatic folding turned on or off. -/
abbrev switched (initial : Files) (store : Path) (enabled : Bool) : Json.Object :=
  (held initial store).put autoKey (.bool enabled)

/-- A tree after a number of toggles. Nothing is known of the order of members, which is as it was
at first until the file is written. -/
structure Toggled (initial : Files) (store : Path) (n : Nat) (fs : Files) : Prop where
  usable : Usable fs store
  autoFold : (inForce fs store).autoFold = not^[n] (inForce initial store).autoFold
  members : ∀ b, Json.sortedObject (switched fs store b) = Json.sortedObject (switched initial store b)

/-- A settings file that was written by a toggle. -/
structure Leaves (initial : Files) (store : Path) (enabled : Bool) (fs : Files) : Prop where
  bytes : fs.readBytes store = .ok (Text.encode (fileText (switched initial store enabled)))
  read : readAll fs store = .ok (Json.sortedObject (switched initial store enabled), [])

variable {initial : Files} {n : Nat}

/-- The mapping that is saved names no key twice. -/
theorem distinct_switched (initial : Files) (store : Path) (enabled : Bool) :
    (Json.obj (switched initial store enabled)).Distinct :=
  (FileStore.distinct_held initial store).put (.bool enabled)

/-- Switching replaces the one value that was switched before. -/
theorem sortedObject_switched_of_held {b : Bool}
    (h : held fs store = Json.sortedObject (switched initial store b)) (c : Bool) :
    Json.sortedObject (switched fs store c) = Json.sortedObject (switched initial store c) := by
  rw [switched, h, Json.sortedObject_put_sortedObject (distinct_switched initial store b), switched,
    Entries.put_put]

/-- The mapping that is saved loads as the settings in force, with the switch as given. -/
theorem load_switched (initial : Files) (store : Path) (b : Bool) :
    (Settings.load (.ofObject (Json.sortedObject (switched initial store b)))).1
      = { inForce initial store with autoFold := b } := by
  rw [Settings.load_sortedObject (distinct_switched initial store b).nodup_keys]
  exact Settings.load_put rfl

/-- **One more toggle.** What it leaves depends on the number of toggles and the tree at first, not
on how the members were ordered before. -/
theorem Toggled.step (h : Toggled initial store n fs) (hasks : AsksToggle env args store)
    (batches : List Batch) :
    (run fs env batches args).failure = none
      ∧ Toggled initial store (n + 1) (run fs env batches args).files
      ∧ Leaves initial store (not^[n + 1] (inForce initial store).autoFold)
          (run fs env batches args).files := by
  let enabled := not^[n + 1] (inForce initial store).autoFold
  obtain ⟨events, hsource⟩ := FileStore.exists_source h.usable.isText
  -- what is flipped is what was loaded, not what is stored
  have henabled :
      (!(Settings.load ⟨fun k => (held fs store).get? k, events⟩).1.autoFold) = enabled := by
    rw [Settings.load_lookup, h.autoFold]
    exact (Function.iterate_succ_apply' not n _).symm
  obtain ⟨fs', hset, husable, hwritten, hread⟩ := h.usable.set (.bool enabled) (.bool enabled) autoKey
  obtain ⟨hfiles, hfailure⟩ := runToggle_of_set hsource henabled hset
  obtain ⟨hfiles', hfailure'⟩ := run_of_asksToggle hasks fs batches
  have hread' : readAll fs' store = .ok (Json.sortedObject (switched initial store enabled), []) := by
    rw [← h.members]
    exact hread
  have hheld := (FileStore.held_of_readAll hread').2.symm
  rw [hfiles', hfailure', hfiles]
  refine ⟨hfailure, ⟨husable, ?_, sortedObject_switched_of_held hheld⟩, ⟨?_, hread'⟩⟩
  · rw [inForce, hheld, load_switched]
  · -- what is written depends on the sorted members only
    have hbytes := hwritten.readBytes
    rwa [← FileStore.fileText_sortedObject (distinct_switched fs store enabled), h.members,
      FileStore.fileText_sortedObject (distinct_switched initial store enabled)] at hbytes

/-- After each run the file is as many toggles on as there were runs. -/
theorem toggled_filesAfter (h : Usable initial store) (hasks : AsksToggle env args store)
    (batches : List Batch) (n : Nat) :
      Toggled initial store n (filesAfter initial env batches args n) := by
  induction n with
  | zero => exact ⟨h, rfl, fun _ => rfl⟩
  | succ n ih => exact (ih.step hasks batches).2.1

/-- What the last run leaves has the switch turned as often as there were runs. -/
theorem leaves_filesAfter (h : Usable initial store) (hasks : AsksToggle env args store)
    (batches : List Batch) (n : Nat) :
    Leaves initial store (not^[n + 1] (inForce initial store).autoFold)
      (filesAfter initial env batches args (n + 1)) :=
  ((toggled_filesAfter h hasks batches n).step hasks batches).2.2

/-- **Toggles in a row.** Each of them succeeds; after `n` of them automatic folding is what it was
at first, negated `n` times, everything else that the settings file said is still there and in
force, and after two more the file is the same. -/
theorem toggle_repeatedly {fs : Files} {store : Path} {env : Environment} {args : List Text}
    (h : Usable fs store) (hasks : AsksToggle env args store) (batches : List Batch) :
    let trees := filesAfter fs env batches args
    ∃ before src, (∃ events, readAll fs store = .ok (before, events)) ∧ source fs store = .ok src ∧
      (∀ n, (run (trees n) env batches args).failure = none) ∧
      ∀ n, 1 ≤ n →
        let enabled := not^[n] (Settings.load src).1.autoFold
        ∃ after src', readAll (trees n) store = .ok (after, []) ∧
          source (trees n) store = .ok src' ∧
          after.get? autoKey = some (.bool enabled) ∧
          (∀ k, k ≠ autoKey → Option.Rel Agrees (before.get? k) (after.get? k)) ∧
          (Settings.load src').1 = { (Settings.load src).1 with autoFold := enabled } ∧
          (Settings.wrapColumn src').1 = (Settings.wrapColumn src).1 ∧
          ∃ bytes, (trees n).readBytes store = .ok bytes ∧
            (trees (n + 2)).readBytes store = .ok bytes := by
  intro trees
  obtain ⟨events, hread⟩ := FileStore.exists_readAll h.isText
  obtain ⟨events', hsource⟩ := FileStore.exists_source h.isText
  refine ⟨held fs store, _, ⟨events, hread⟩, hsource, fun n => ?_, fun n hn => ?_⟩
  · exact ((toggled_filesAfter h hasks batches n).step hasks batches).1
  -- the last run starts from a tree after one toggle less, which may be the tree at first
  obtain ⟨m, rfl⟩ : ∃ m, n = m + 1 := ⟨n - 1, by omega⟩
  have hleaves := leaves_filesAfter h hasks batches m
  have hleaves' := leaves_filesAfter h hasks batches (m + 2)
  rw [Settings.load_lookup]
  intro enabled
  have hsame : not^[m + 2 + 1] (inForce fs store).autoFold = enabled := by
    rw [Function.iterate_succ_apply', Function.iterate_succ_apply', Bool.not_not]
  rw [hsame] at hleaves'
  have hkeys := (distinct_switched fs store enabled).nodup_keys
  have hsource' := FileStore.source_of_readAll hleaves.read
  refine ⟨_, _, hleaves.read, hsource', ?_, fun k hk => ?_, load_switched fs store enabled, ?_, _,
    hleaves.bytes, hleaves'.bytes⟩
  · rw [Json.get?_sortedObject hkeys, Entries.get?_put_self]
    rfl
  · rw [Json.get?_sortedObject hkeys, Entries.get?_put_of_ne hk]
    exact Json.rel_map_sorted (FileStore.distinct_held fs store) k
  · exact (Settings.wrapColumn_sortedObject hkeys).trans (Settings.wrapColumn_put _ .autoFold _)

/-- A value that is no truth value is replaced by the negation of the default. -/
theorem toggle_repeatedly_malformed :
    let store : Path := "a/settings.json"
    let env : Environment := ⟨"/home", none⟩
    let args : List Text := ["--settings", "a/settings.json", "toggle"]
    let fs : Files := (FileStore.set {} store autoKey (.str "yes")).1.files
    Usable fs store ∧ AsksToggle env args store ∧
      ∃ after, readAll (filesAfter fs env [] args 3) store = .ok (after, []) ∧
        after.get? autoKey = some (.bool true) := by
  intro store env args fs
  have hwritable : Files.IsWritable {} store := Files.write_error_eq_none_iff.mp
    (by decide +kernel :
      ((Files.ensureParent {} store).andThen (·.writeBytes store .empty)).error = none)
  obtain ⟨fs₁, hset, husable, -, hread⟩ :=
    (FileStore.usable_of_missing hwritable rfl).set (.str "yes") (.str "yes") autoKey
  have hfs₁ : fs = fs₁ := congrArg Files.Attempt.files hset
  rw [← hfs₁] at husable hread
  have hasks : AsksToggle env args store :=
    ⟨⟨some "a/settings.json", false, .toggle⟩, by decide +kernel, rfl, by decide +kernel⟩
  have hmembers : Json.sortedObject (Entries.put autoKey (.str "yes") (FileStore.held {} store))
      = [(autoKey, .str "yes")] := List.mergeSort_singleton _
  rw [hmembers] at hread
  clear_value fs
  obtain ⟨before, src, -, hsource, -, hruns⟩ := toggle_repeatedly husable hasks []
  obtain ⟨after, src', hafter, -, hvalue, -⟩ := hruns 3 (by decide)
  rw [FileStore.source_of_readAll hread] at hsource
  obtain rfl : Source.ofObject _ = src := Except.ok.inj hsource
  exact ⟨husable, hasks, after, hafter, hvalue⟩

end AttrFold.Cli
