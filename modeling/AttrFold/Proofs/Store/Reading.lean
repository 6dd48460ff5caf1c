import AttrFold.Proofs.Files.Reading
import AttrFold.Proofs.Store.Settings

/-!
# Which settings files cannot be read

A settings file may be missing or be a directory, a file may be in the way of its path, and a file
may hold any bytes. Whatever is wrong with it, it is to count as an empty one.

## The crux

Of the ways in which a file cannot be read, the store leaves two unhandled (`Unreadable`): bytes
that are no text, and a text in which its reader meets its limits. Both are errors and no empty
file. So reading fails exactly there, and with it each look-up and the loading of settings. At every
other path the store has the members of the object that is written there, or none. Where limits are
met is up to the reader, and it is between two bounds that only look at the text and at the value in
it (`Json.Limits.Admit`, `Json.Fits`).

* **`reading_fails_iff_unreadable`** — where reading fails, and what is looked up and loaded where
  it does not.
-/

namespace AttrFold.FileStore

variable {limits : Json.Limits} {fs : Files} {file : Path} {members : Json.Object} {t : Text}

/-! ## What lies at the path -/

/-- A path leads to a file of the given text, with one line feed at the end of each of its lines. -/
def HoldsText (fs : Files) (file : Path) (t : Text) : Prop :=
  ∃ bytes u, fs.at? file = .ok (.file bytes) ∧ Text.decode? bytes = some u ∧ u.unifyLineEnds = t

/-- A path leads to a file whose text is an object with the given members. -/
def HoldsObject (fs : Files) (file : Path) (members : Json.Object) : Prop :=
  ∃ t, HoldsText fs file t ∧ Json.read? t = some (.obj members)

/-- Why a settings file cannot be read: its bytes are no text, or the reader of its text meets its
limits, before the text turns out to be malformed. -/
inductive Unreadable (limits : Json.Limits) (fs : Files) (file : Path) : FileError → Prop
  | notUtf8 (h : fs.HoldsNoText file) : Unreadable limits fs file .notUtf8
  | excess {t : Text} {e : Json.Excess} (htext : HoldsText fs file t)
      (hmeets : Json.readWithin limits t = .error (.excess e)) : Unreadable limits fs file (.excess e)

/-- The text of a file is what reading the file gives. -/
theorem holdsText_iff : HoldsText fs file t ↔ fs.readText file = .ok t := by
  unfold HoldsText Files.readText Files.readBytes
  cases fs.at? file with
  | error e => simp
  | ok i =>
    cases i with
    | directory => simp
    | file bytes => cases hdecode : Text.decode? bytes <;> simp [hdecode]

/-- What is held is the object that a file has as its text. -/
theorem held_of_holdsObject (h : HoldsObject fs file members) : held fs file = members := by
  obtain ⟨t, htext, hobject⟩ := h
  rw [held, holdsText_iff.mp htext]
  simp only [hobject]

/-- A file that holds no object counts as an empty one. -/
theorem held_of_no_object (h : ∀ members, ¬HoldsObject fs file members) : held fs file = [] := by
  unfold held
  split
  · rfl
  · next t htext =>
    split
    · next members hobject => exact absurd ⟨t, holdsText_iff.mpr htext, hobject⟩ (h members)
    · rfl

/-! ## Where limits are met -/

/-- Limits are met only in a text that has more brackets or digits than they admit. -/
theorem not_admit_of_unreadable {e : Json.Excess} (h : Unreadable limits fs file (.excess e)) :
    ∃ t, HoldsText fs file t ∧ ¬limits.Admit t := by
  cases h with
  | @excess t _ htext hmeets =>
    exact ⟨t, htext, fun hadmit => Json.settled_readWithin hadmit e hmeets⟩

/-- Limits are met wherever the value of a text is too deep, or has an integer that is too long, for
them. -/
theorem unreadable_of_not_fits {v : Json} (htext : HoldsText fs file t) (hread : Json.read? t = some v)
    (hv : ¬Json.Fits limits v) : ∃ e, Unreadable limits fs file (.excess e) := by
  obtain ⟨e, hmeets⟩ := Json.excess_of_not_fits hread hv
  exact ⟨e, .excess htext hmeets⟩

/-! ## Reading, looking up and loading -/

/-- A settings file is read as the given members, and looking up and loading go by these. -/
structure ReadsAs (fs : Files) (file : Path) (members : Json.Object) (src : Source) : Prop where
  object : ∀ o, HoldsObject fs file o → members = o
  empty : (∀ o, ¬HoldsObject fs file o) → members = []
  lookup : ∀ key, src.lookup key = members.get? key
  settings : (Settings.load src).1 = (Settings.load (.ofObject members)).1
  wrapColumn : (Settings.wrapColumn src).1 = (Settings.wrapColumn (.ofObject members)).1

/-- With no object in its file a store yields what an empty one does: no values, and settings by
default. -/
theorem ReadsAs.defaults {src : Source} (h : ReadsAs fs file members src)
    (hnone : ∀ o, ¬HoldsObject fs file o) :
    (∀ key, src.lookup key = none) ∧ (Settings.load src).1 = {} ∧
      (Settings.wrapColumn src).1 = none := by
  have hempty : members = [] := h.empty hnone
  refine ⟨fun key => ?_, ?_, ?_⟩
  · rw [h.lookup key, hempty]
    rfl
  · rw [h.settings, hempty]
    rfl
  · rw [h.wrapColumn, hempty]
    rfl

/-- The store does not handle what makes a file unreadable. -/
theorem fails_of_unreadable {e : FileError} (h : Unreadable limits fs file e) :
    readAll fs file limits = .error e ∧ source fs file limits = .error e := by
  have hread : readAll fs file limits = .error e := by
    cases h with
    | notUtf8 h => exact readAll_of_notUtf8 (Files.readText_eq_notUtf8_iff.mpr h) limits
    | excess htext hmeets =>
      rw [readAll, holdsText_iff.mp htext]
      simp only [hmeets]
  exact ⟨hread, by rw [source, hread]⟩

/-- Where a settings file can be read, it is read as members that go with what it holds. -/
theorem exists_readsAs (h : ∀ e, ¬Unreadable limits fs file e) : ∃ members events src,
    readAll fs file limits = .ok (members, events) ∧ source fs file limits = .ok src ∧
      ReadsAs fs file members src := by
  have htext : fs.readText file ≠ .error .notUtf8 :=
    fun hread => h _ (.notUtf8 (Files.readText_eq_notUtf8_iff.mp hread))
  have hsettled : ∀ t, fs.readText file = .ok t → Json.Settled (Json.readWithin limits t) :=
    fun t ht e hmeets => h _ (.excess (holdsText_iff.mpr ht) hmeets)
  obtain ⟨events, hread⟩ := exists_readAll_of_settled htext hsettled
  refine ⟨held fs file, events, ⟨fun k => (held fs file).get? k, events⟩, hread, ?_, ?_⟩
  · rw [source, hread]
  · exact {
      object := fun o ho => held_of_holdsObject ho
      empty := held_of_no_object
      lookup := fun _ => rfl
      settings := Settings.load_lookup (held fs file) events
      wrapColumn := rfl }

/-- **Reading fails exactly where the bytes of a file are no text or its reader meets its limits.**
At every other path, whatever lies there, there are members, those of the object in the file or
none, and values and settings by them; without an object no key has a value and every setting has
its default. Limits are met only in texts that they do not admit, and in all texts whose value does
not fit them. -/
theorem reading_fails_iff_unreadable (limits : Json.Limits) (fs : Files) (file : Path) :
    ((∃ e, Unreadable limits fs file e ∧ readAll fs file limits = .error e ∧
        source fs file limits = .error e) ∨
      (∀ e, ¬Unreadable limits fs file e) ∧ ∃ members events src,
        readAll fs file limits = .ok (members, events) ∧ source fs file limits = .ok src ∧
          ReadsAs fs file members src ∧ ((∀ o, ¬HoldsObject fs file o) →
            (∀ key, src.lookup key = none) ∧ (Settings.load src).1 = {} ∧
              (Settings.wrapColumn src).1 = none)) ∧
    (∀ e, Unreadable limits fs file (.excess e) → ∃ t, HoldsText fs file t ∧ ¬limits.Admit t) ∧
    ∀ t v, HoldsText fs file t → Json.read? t = some v → ¬Json.Fits limits v →
      ∃ e, Unreadable limits fs file (.excess e) := by
  refine ⟨?_, fun e => not_admit_of_unreadable, fun t v => unreadable_of_not_fits⟩
  by_cases h : ∃ e, Unreadable limits fs file e
  · obtain ⟨e, he⟩ := h
    exact .inl ⟨e, he, fails_of_unreadable he⟩
  · have hnone : ∀ e, ¬Unreadable limits fs file e := fun e he => h ⟨e, he⟩
    obtain ⟨members, events, src, hread, hsource, hreads⟩ := exists_readsAs hnone
    exact .inr ⟨hnone, members, events, src, hread, hsource, hreads, hreads.defaults⟩

/-- A single byte that begins no character makes reading fail, whatever the limits are. -/
theorem reading_fails_at_lone_byte :
    let file : Path := "s.json"
    let fs : Files := { items := [(["s.json"], .file ⟨#[0xff]⟩)] }
    readAll fs file = .error .notUtf8 ∧ source fs file = .error .notUtf8 := by
  intro file fs
  exact fails_of_unreadable (.notUtf8 ⟨_, rfl, by decide +kernel⟩)

end AttrFold.FileStore
