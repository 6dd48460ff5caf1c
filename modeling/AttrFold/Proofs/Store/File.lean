import AttrFold.Proofs.Files
import AttrFold.Proofs.Json.Limits
import AttrFold.Proofs.Json.Writing
import AttrFold.Store.File

/-!
# Settings in a file

A settings file holds the members of an object, or none (`held`). Setting a value writes these
members with one of them changed, and what is written is read back sorted (`readAll_of_written`), so
a file that can be used can be used again afterwards (`Usable.set`).

## The crux

`set_updates_or_keeps`: a value is set exactly if the path is writable and the file, if there is
one, is text. Then everything else that is looked up stays as it was; and where a value cannot be
set, no file changes.
-/

namespace AttrFold.FileStore

open Json (Agrees)

variable {fs fs' : Files} {file : Path} {members : Json.Object} {events : List Event} {key : Text}
  {v : Json}

/-! ## What a settings file holds -/

/-- The members that a settings file holds: none, unless its text is an object. -/
def held (fs : Files) (file : Path) : Json.Object :=
  match fs.readText file with
  | .error _ => []
  | .ok t =>
    match Json.read? t with
    | some (.obj members) => members
    | _ => []

/-- Reading the store fails for bytes that are no text, whatever the limits are. -/
theorem readAll_of_notUtf8 (h : fs.readText file = .error .notUtf8) (limits : Json.Limits := {}) :
    readAll fs file limits = .error .notUtf8 := by
  rw [readAll, h]

/-- A text is read as what it holds, whatever the limits, if none are met in it. -/
theorem exists_readAll_of_settled {limits : Json.Limits} (h : fs.readText file ≠ .error .notUtf8)
    (hsettled : ∀ t, fs.readText file = .ok t → Json.Settled (Json.readWithin limits t)) :
    ∃ events, readAll fs file limits = .ok (held fs file, events) := by
  unfold readAll held
  cases hread : fs.readText file with
  | error e =>
    cases e with
    | notUtf8 => exact absurd hread h
    | _ => exact ⟨_, rfl⟩
  | ok t =>
    have hlimits : Json.readWithin limits t = Json.readWithin {} t :=
      (Json.readWithin_mono limits.le_unbounded t).resolve_right fun ⟨e, he⟩ => hsettled t hread e he
    dsimp only
    rw [hlimits, Json.read?]
    cases hvalue : Json.readWithin {} t with
    | error s =>
      cases s with
      | malformed => exact ⟨_, rfl⟩
      | excess e => exact absurd hvalue (Json.settled_readWithin_unbounded t e)
    | ok v => cases v <;> exact ⟨_, rfl⟩

/-- Without limits, reading the store gives what is held wherever the bytes are a text. -/
theorem exists_readAll (h : fs.readText file ≠ .error .notUtf8) :
    ∃ events, readAll fs file = .ok (held fs file, events) :=
  exists_readAll_of_settled h fun t _ => Json.settled_readWithin_unbounded t

theorem held_of_readAll (h : readAll fs file = .ok (members, events)) :
    fs.readText file ≠ .error .notUtf8 ∧ members = held fs file := by
  have htext : fs.readText file ≠ .error .notUtf8 := by
    intro htext
    rw [readAll_of_notUtf8 htext] at h
    cases h
  obtain ⟨_, hread⟩ := exists_readAll htext
  rw [hread] at h
  exact ⟨htext, (Prod.mk.inj (Except.ok.inj h)).1.symm⟩

/-- No key is held twice. -/
theorem distinct_held (fs : Files) (file : Path) : (Json.obj (held fs file)).Distinct := by
  unfold held
  split
  · exact .empty
  · split
    · next hread => exact Json.distinct_of_read? hread
    · exact .empty

/-! ## Writing and reading back -/

section Written

variable (hkeys : (Json.obj members).Distinct) (hfree : (Json.obj members).FloatFree)

include hkeys hfree

/-- Reading unifies the ends of lines, which is of no account for the text of a settings file. -/
theorem return_not_mem_fileText : '\r' ∉ fileText members := by
  intro hmem
  rcases List.mem_append.mp hmem with hmem | hmem
  · exact (hkeys.spells_indented hfree 0).return_not_mem hmem
  · exact absurd (List.mem_singleton.mp hmem) (by decide)

/-- The text of a settings file is read back sorted. -/
theorem readAll_of_fileText (h : fs.readBytes file = .ok (Text.encode (fileText members))) :
    readAll fs file = .ok (Json.sortedObject members, []) := by
  have htext : fs.readText file = .ok (fileText members) :=
    Files.readText_of_encode h (return_not_mem_fileText hkeys hfree)
  have hread : Json.readWithin {} (fileText members) = .ok (.obj (Json.sortedObject members)) :=
    Json.read?_eq_some_iff.mp (hkeys.read?_indented hfree)
  rw [readAll, htext]
  simp only [hread]

/-- The members that were written are read back, sorted. -/
theorem readAll_of_written (h : Files.Written fs file (Text.encode (fileText members)) fs') :
    readAll fs' file = .ok (Json.sortedObject members, []) :=
  readAll_of_fileText hkeys hfree h.readBytes

end Written

/-- Members in the order of their keys are written as any other order of them is. -/
theorem fileText_sortedObject (h : (Json.obj members).Distinct) :
    fileText (Json.sortedObject members) = fileText members :=
  congrArg (· ++ ['\n']) (h.indented_sorted 0)

/-! ## Setting a value -/

/-- Setting a key fails for bytes that are no text, and leaves the tree as it is. -/
theorem set_of_notUtf8 (h : fs.readText file = .error .notUtf8) (key : Text) (v : Json) :
    (set fs file key v).1 = ⟨fs, some .notUtf8⟩ := by
  rw [set, readAll_of_notUtf8 h]

/-- Setting a key writes what is held, with the value put in. -/
theorem set_eq_writeAll (h : fs.readText file ≠ .error .notUtf8) (key : Text) (v : Json) :
    (set fs file key v).1 = writeAll fs file ((held fs file).put key v) := by
  obtain ⟨events, hread⟩ := exists_readAll h
  rw [set, hread]
  dsimp only
  split <;> rfl

/-- A value is set exactly if the path is writable and the file, if there is one, is text. -/
theorem set_error_eq_none_iff :
    (set fs file key v).1.error = none ↔ fs.IsWritable file ∧ fs.readText file ≠ .error .notUtf8 := by
  by_cases htext : fs.readText file = .error .notUtf8
  · rw [set_of_notUtf8 htext]
    simp [htext]
  · rw [set_eq_writeAll htext, writeAll, Files.write_error_eq_none_iff]
    simp [htext]

/-- A key that fails to be set leaves the content of all files. -/
theorem content?_of_set_error {e : FileError} (h : (set fs file key v).1.error = some e)
    (l : Location) : (set fs file key v).1.files.content? l = fs.content? l := by
  by_cases htext : fs.readText file = .error .notUtf8
  · rw [set_of_notUtf8 htext]
  · rw [set_eq_writeAll htext, writeAll] at h ⊢
    exact Files.content?_of_write_error h l

/-- A settings file that can be read and written, and holds no floating-point number. -/
structure Usable (fs : Files) (file : Path) : Prop where
  writable : fs.IsWritable file
  isText : fs.readText file ≠ .error .notUtf8
  floatFree : (Json.obj (held fs file)).FloatFree

/-- A file that is missing can be used where it can be written. -/
theorem usable_of_missing (hwritable : fs.IsWritable file) (h : fs.readText file = .error .notFound) :
    Usable fs file := by
  have hheld : held fs file = [] := by rw [held, h]
  refine ⟨hwritable, fun htext => ?_, ?_⟩
  · rw [h] at htext
    cases htext
  · rw [hheld]
    exact .empty

/-- A file in which a value was set can be used again. It holds what it held before with the value under
its key, in the order of the keys. -/
theorem Usable.set (h : Usable fs file) (hkeys : v.Distinct) (hfree : v.FloatFree) (key : Text) :
    ∃ fs', (FileStore.set fs file key v).1 = ⟨fs', none⟩ ∧ Usable fs' file
      ∧ Files.Written fs file (Text.encode (fileText ((held fs file).put key v))) fs'
      ∧ readAll fs' file = .ok (Json.sortedObject ((held fs file).put key v), []) := by
  have hputKeys : (Json.obj ((held fs file).put key v)).Distinct := (distinct_held fs file).put hkeys
  have hputFree : (Json.obj ((held fs file).put key v)).FloatFree := h.floatFree.put hfree
  obtain ⟨fs', hwrite, hwritten⟩ := h.writable.write (Text.encode (fileText ((held fs file).put key v)))
  have hread := readAll_of_written hputKeys hputFree hwritten
  obtain ⟨htext, hheld⟩ := held_of_readAll hread
  refine ⟨fs', (set_eq_writeAll h.isText key v).trans hwrite, ?_, hwritten, hread⟩
  refine ⟨hwritten.isWritable h.writable.named, htext, ?_⟩
  rw [← hheld]
  exact hputFree.sorted

/-- **A value is set under its key and nowhere else, or no file changes.** Setting succeeds exactly
along a writable path, and over a file that is text if there is one. -/
theorem set_updates_or_keeps {fs : Files} {file : Path} {key : Text} {v : Json} (hkeys : v.Distinct)
    (hfree : v.FloatFree)
    (hbefore : ∀ before events, readAll fs file = .ok (before, events) → (Json.obj before).FloatFree) :
    ((set fs file key v).1.error = none ↔ fs.IsWritable file ∧ fs.readText file ≠ .error .notUtf8) ∧
      (∀ fs', (set fs file key v).1 = ⟨fs', none⟩ →
        ∃ before events after, readAll fs file = .ok (before, events) ∧ before = held fs file ∧
          readAll fs' file = .ok (after, []) ∧
          (Json.obj (before.put key v)).Agrees (.obj after) ∧
          (∃ w, after.get? key = some w ∧ v.Agrees w) ∧
          (∀ k, k ≠ key → Option.Rel Agrees (before.get? k) (after.get? k)) ∧
          ∃ l, fs'.locate file = .ok l ∧ ∀ m, m ≠ l → fs'.content? m = fs.content? m) ∧
      ∀ fs' e, (set fs file key v).1 = ⟨fs', some e⟩ → ∀ l, fs'.content? l = fs.content? l := by
  refine ⟨set_error_eq_none_iff, fun fs' hset => ?_, fun fs' e hset l => ?_⟩
  · obtain ⟨hwritable, htext⟩ := set_error_eq_none_iff.mp (congrArg Files.Attempt.error hset)
    obtain ⟨events, hread⟩ := exists_readAll htext
    have husable : Usable fs file := ⟨hwritable, htext, hbefore _ _ hread⟩
    obtain ⟨fs'', hset', -, hwritten, hafter⟩ := husable.set hkeys hfree key
    obtain rfl : fs' = fs'' := congrArg Files.Attempt.files (hset.symm.trans hset')
    -- all that is found afterwards is found in the sorted members
    let after := Json.sortedObject ((held fs file).put key v)
    have hagrees : (Json.obj ((held fs file).put key v)).Agrees (.obj after) :=
      ((distinct_held fs file).put hkeys).agrees_sorted
    have hself := hagrees.get? key
    rw [Entries.get?_put_self] at hself
    refine ⟨_, events, after, hread, rfl, hafter, hagrees, ?_, fun k hk => ?_, ?_⟩
    · generalize after.get? key = found at hself ⊢
      cases hself with
      | some hw => exact ⟨_, rfl, hw⟩
    · have hother := hagrees.get? k
      rwa [Entries.get?_put_of_ne hk] at hother
    · exact ⟨fs.target file, hwritten.locate, hwritten.others⟩
  · have hkept := content?_of_set_error (congrArg Files.Attempt.error hset) l
    rwa [hset] at hkept

/-- A nested value stands next to a number that was set before, in a file that did not exist. -/
theorem set_updates_or_keeps_nested :
    let file : Path := "a/settings.json"
    let old : Text := "n"
    let key : Text := "k"
    let v : Json := .obj [("y", .int (-3)), ("x", .arr [.str "é", .null])]
    let fs : Files := (set {} file old (.int (-7))).1.files
    v.Distinct ∧ v.FloatFree ∧ readAll fs file = .ok ([(old, .int (-7))], []) ∧
      ∃ fs' after, (set fs file key v).1 = ⟨fs', none⟩ ∧ readAll fs' file = .ok (after, []) ∧
        (∃ w, after.get? key = some w ∧ v.Agrees w) ∧
        Option.Rel Agrees (some (.int (-7))) (after.get? old) := by
  intro file old key v fs
  have hkeys : v.Distinct := by
    refine .obj (by decide) (List.forall_mem_cons.mpr ⟨.int _, List.forall_mem_singleton.mpr (.arr ?_)⟩)
    exact List.forall_mem_cons.mpr ⟨.str _, List.forall_mem_singleton.mpr .null⟩
  have hfree : v.FloatFree := by
    refine .obj (List.forall_mem_cons.mpr ⟨.int _, List.forall_mem_singleton.mpr (.arr ?_)⟩)
    exact List.forall_mem_cons.mpr ⟨.str _, List.forall_mem_singleton.mpr .null⟩
  have hwritable : Files.IsWritable {} file := Files.write_error_eq_none_iff.mp
    (by decide +kernel : ((Files.ensureParent {} file).andThen (·.writeBytes file .empty)).error = none)
  obtain ⟨fs₁, hfs, husable, -, hread⟩ :=
    (usable_of_missing hwritable rfl).set (.int (-7)) (.int (-7)) old
  have hfs₁ : fs = fs₁ := congrArg Files.Attempt.files hfs
  have hmembers : Json.sortedObject (Entries.put old (.int (-7)) (held {} file)) = [(old, .int (-7))] :=
    List.mergeSort_singleton _
  rw [← hfs₁] at husable hread
  rw [hmembers] at hread
  clear_value fs
  have hbefore : ∀ before events, readAll fs file = .ok (before, events) →
      (Json.obj before).FloatFree := by
    intro before events h
    rw [hread] at h
    obtain ⟨rfl, -⟩ := Prod.mk.inj (Except.ok.inj h)
    exact .obj (List.forall_mem_singleton.mpr (.int _))
  have hset : (set fs file key v).1 = ⟨(set fs file key v).1.files, none⟩ :=
    congrArg (Files.Attempt.mk _)
      ((set_updates_or_keeps hkeys hfree hbefore).1.mpr ⟨husable.writable, husable.isText⟩)
  obtain ⟨before, events, after, hread', -, hafter, -, hself, hothers, -⟩ :=
    (set_updates_or_keeps hkeys hfree hbefore).2.1 _ hset
  rw [hread] at hread'
  obtain ⟨rfl, -⟩ := Prod.mk.inj (Except.ok.inj hread')
  exact ⟨hkeys, hfree, hread, _, after, hset, hafter, hself, hothers old (by decide)⟩

end AttrFold.FileStore
