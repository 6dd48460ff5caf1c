import AttrFold.Cli.Run
import AttrFold.Proofs.Store.Canonical

/-!
# Setting a value from the command line

What is typed for a value is JSON, or else the text itself, so a word needs no quotes. What is
stored is written as JSON, and JSON text on one line is read as the value that it was written for.
So a stored value can be typed again as it is shown, also where it was a bare word at first.

## The crux

A value is stored with the members of its objects in the order of their keys, while the text on one
line keeps the order that they have. What is typed again is therefore what is stored, not only what
agrees with it, and the members of the file are left as they are (`FileStore.set_stored`).

* **`set_then_set_stored`** — what a value that is set leaves in the settings file, and that setting
  the stored value leaves every file as it is.
-/

namespace AttrFold.Cli

open FileStore (Usable held readAll)
open Json (Agrees)

variable {fs : Files} {env : Environment} {batches : List Batch} {args : List Text} {store : Path}
  {key target raw : Text}

/-! ## What is asked for -/

/-- The first text names the key: it is the key itself, or a key of the scope without the scope. -/
inductive NamesKey : Text → Text → Prop
  | short (k : Setting) : NamesKey k.shortKey k.key
  | qualified (k : Setting) : NamesKey k.key k.key
  | wrap : NamesKey Setting.wrapKey Setting.wrapKey

/-- A name of a key is completed to the key. -/
theorem NamesKey.qualifiedKey_eq (h : NamesKey key target) : qualifiedKey key = target := by
  cases h with
  | short k => cases k <;> decide
  | qualified k => cases k <;> decide
  | wrap => decide

/-- What a name stands for is a known key. -/
theorem NamesKey.contains (h : NamesKey key target) : knownKeys.contains target = true := by
  cases h with
  | short k => cases k <;> decide
  | qualified k => cases k <;> decide
  | wrap => decide

/-- The arguments ask for a value to be set, and this is the settings file that they or the
environment name. -/
def AsksSet (env : Environment) (args : List Text) (key raw : Text) (store : Path) : Prop :=
  ∃ inv, Invocation.read args = .ok inv ∧ inv.command = .setSetting key raw
    ∧ FileStore.path (inv.settings.or env.settings) env.home = .ok store

/-- After two hyphens every key and every value can be typed, also a value that begins with a hyphen. -/
theorem asksSet_of_separated {settings : Text} (h : FileStore.path (some settings) env.home = .ok store)
    (key raw : Text) :
    AsksSet env ["--settings", settings, "config", "set", "--", key, raw] key raw store :=
  ⟨⟨some settings, false, .setSetting key raw⟩, rfl, rfl, h⟩

/-- Setting a key leaves the tree that saving in the store leaves. -/
theorem files_runSetSetting (fs : Files) (store : Path) (key : Text) (v : Json) :
    (runSetSetting fs store key v).files = (FileStore.set fs store key v).1.files := by
  unfold runSetSetting
  obtain ⟨⟨files, _ | e⟩, events⟩ := FileStore.set fs store key v <;> rfl

/-- Arguments that ask for a key to be set save the typed value under the key that they name. -/
theorem files_run_of_asksSet (h : AsksSet env args key raw store) (hnames : NamesKey key target)
    (fs : Files) (batches : List Batch) :
    (run fs env batches args).files = (FileStore.set fs store target (typedValue raw)).1.files := by
  obtain ⟨inv, hread, hcommand, hstore⟩ := h
  have hrun : inv.run fs env batches = runSetSetting fs store target (typedValue raw) := by
    rw [Invocation.run, hcommand]
    simp only [hnames.qualifiedKey_eq, hnames.contains, if_true, withStore, hstore]
  rw [run_of_read hread, hrun]
  exact files_runSetSetting fs store target (typedValue raw)

/-! ## What is typed -/

/-- A typed value names no key of an object twice. -/
theorem distinct_typedValue (raw : Text) : (typedValue raw).Distinct := by
  unfold typedValue
  cases hread : Json.read? raw with
  | none => exact .str raw
  | some v => exact Json.distinct_of_read? hread

/-- A value is typed by its text on one line. -/
theorem typedValue_compact {v : Json} (hkeys : v.Distinct) (hfree : v.FloatFree) :
    typedValue v.compact = v := by
  rw [typedValue, hkeys.read?_compact hfree]
  rfl

/-- **What is typed is stored, and what is stored can be typed again.** Setting a value that has no
floating-point number, under a known key in its short or its full form, goes through. Afterwards the
settings file holds the value under this key, and under every other key what it held before. Setting
the stored value once more, typed as JSON on one line, goes through too and leaves every file byte
by byte as it is. -/
theorem set_then_set_stored {fs : Files} {store : Path} {env : Environment} {args : List Text}
    {key target raw : Text} (h : Usable fs store) (hnames : NamesKey key target)
    (hfree : (typedValue raw).FloatFree) (hasks : AsksSet env args key raw store)
    (batches : List Batch) :
    let fs₁ := (run fs env batches args).files
    ∃ before after stored, (∃ events, readAll fs store = .ok (before, events)) ∧
      (FileStore.set fs store target (typedValue raw)).1 = ⟨fs₁, none⟩ ∧
      readAll fs₁ store = .ok (after, []) ∧
      after.get? target = some stored ∧ (typedValue raw).Agrees stored ∧
      (∀ k, k ≠ target → Option.Rel Agrees (before.get? k) (after.get? k)) ∧
      ∀ (env' : Environment) (args' : List Text) (key' : Text) (batches' : List Batch),
        NamesKey key' target → AsksSet env' args' key' stored.compact store →
          let fs₂ := (run fs₁ env' batches' args').files
          (FileStore.set fs₁ store target stored).1 = ⟨fs₂, none⟩ ∧
            (∃ bytes, fs₁.readBytes store = .ok bytes ∧ fs₂.readBytes store = .ok bytes) ∧
            ∀ l, fs₂.content? l = fs₁.content? l := by
  intro fs₁
  let members := (held fs store).put target (typedValue raw)
  have hkeys := distinct_typedValue raw
  have hdistinct : (Json.obj members).Distinct := (FileStore.distinct_held fs store).put hkeys
  have hmembersFree : (Json.obj members).FloatFree := h.floatFree.put hfree
  obtain ⟨events, hbefore⟩ := FileStore.exists_readAll h.isText
  obtain ⟨fs', hset, -, hwritten, hafter⟩ := h.set hkeys hfree target
  obtain rfl : fs₁ = fs' := by
    rw [show fs₁ = _ from files_run_of_asksSet hasks hnames fs batches, hset]
  -- what is written is sorted, so each value comes back sorted too
  have hlookup : ∀ k, (Json.sortedObject members).get? k = (members.get? k).map Json.sorted :=
    Json.get?_sortedObject hdistinct.nodup_keys
  have hstored : (Json.sortedObject members).get? target = some (typedValue raw).sorted := by
    rw [hlookup, Entries.get?_put_self]
    rfl
  refine ⟨_, _, _, ⟨events, hbefore⟩, hset, hafter, hstored, hkeys.agrees_sorted, fun k hk => ?_, ?_⟩
  · rw [hlookup, Entries.get?_put_of_ne hk]
    exact Json.rel_map_sorted (FileStore.distinct_held fs store) k
  · intro env' args' key' batches' hnames' hasks' fs₂
    -- the second value is the stored one: putting it changes no member
    have hheld := (FileStore.held_of_readAll hafter).2
    obtain ⟨fs'', hset', hbytes, hothers⟩ :=
      FileStore.set_stored hdistinct hmembersFree h.writable.named
      hwritten (hheld ▸ hstored)
    obtain rfl : fs₂ = fs'' := by
      rw [show fs₂ = _ from files_run_of_asksSet hasks' hnames' fs₁ batches',
        typedValue_compact hkeys.sorted hfree.sorted, hset']
    exact ⟨hset', ⟨_, hwritten.readBytes, hbytes.trans hwritten.readBytes⟩, hothers⟩

/-- An object whose members are typed out of order, under a short key and then under the full one,
in a file that did not exist. -/
theorem set_then_set_stored_out_of_order :
    let store : Path := "a/settings.json"
    let env : Environment := ⟨"/home", none⟩
    let args (key raw : Text) : List Text :=
      ["--settings", "a/settings.json", "config", "set", "--", key, raw]
    let b : Text := "b"
    let a : Text := "a"
    let v : Json := .obj [(b, .arr [.int (-1), .null]), (a, .str "é\"")]
    let key := Setting.foldStyle.shortKey
    let target := Setting.foldStyle.key
    let fs₁ := (run {} env [] (args key v.compact)).files
    Usable {} store ∧ NamesKey key target ∧ (typedValue v.compact).FloatFree ∧
      AsksSet env (args key v.compact) key v.compact store ∧
      ∃ after stored bytes, readAll fs₁ store = .ok (after, []) ∧ after.get? target = some stored ∧
        v.Agrees stored ∧ fs₁.readBytes store = .ok bytes ∧
        (run fs₁ env [] (args target stored.compact)).files.readBytes store = .ok bytes := by
  intro store env args b a v key target fs₁
  have hkeys : v.Distinct := by
    refine .obj (by decide) (List.forall_mem_cons.mpr ⟨.arr ?_, List.forall_mem_singleton.mpr (.str _)⟩)
    exact List.forall_mem_cons.mpr ⟨.int _, List.forall_mem_singleton.mpr .null⟩
  have hfree : v.FloatFree := by
    refine .obj (List.forall_mem_cons.mpr ⟨.arr ?_, List.forall_mem_singleton.mpr (.str _)⟩)
    exact List.forall_mem_cons.mpr ⟨.int _, List.forall_mem_singleton.mpr .null⟩
  have hwritable : Files.IsWritable {} store := Files.write_error_eq_none_iff.mp
    (by decide +kernel :
      ((Files.ensureParent {} store).andThen (·.writeBytes store .empty)).error = none)
  have husable : Usable {} store := FileStore.usable_of_missing hwritable rfl
  have hpath : FileStore.path (some "a/settings.json".toList) env.home = .ok store := by decide +kernel
  have htyped : typedValue v.compact = v := typedValue_compact hkeys hfree
  have htypedFree : (typedValue v.compact).FloatFree := by
    rw [htyped]
    exact hfree
  have hasks := asksSet_of_separated hpath key v.compact
  obtain ⟨before, after, stored, -, -, hafter, hstored, hagrees, -, hagain⟩ :=
    set_then_set_stored husable (.short .foldStyle) htypedFree hasks []
  rw [htyped] at hagrees
  obtain ⟨-, ⟨bytes, hbytes, hbytes'⟩, -⟩ :=
    hagain env _ target [] (.qualified .foldStyle) (asksSet_of_separated hpath target stored.compact)
  exact ⟨husable, .short .foldStyle, htypedFree, hasks, after, stored, bytes, hafter, hstored, hagrees,
    hbytes, hbytes'⟩

end AttrFold.Cli
