import AttrFold.Files.Basic

/-!
# Writing into a file tree

A path enters places one after the other, each of which has to be a directory, and ends at one more
place (`follow_eq_ok_iff`). Making the directories that a path enters adds directories and changes
nothing else, even if it fails on the way (`gains_ensureDirectories`).

## The crux

`ensureDirectories_error_eq_none_iff`: directories can be made exactly if no file stands where one
of them has to be. So whether a file can be written is a matter of what lies along its path
(`IsWritable`), and after it is written it can be read back and written again (`Written`).
-/

namespace AttrFold

/-- A text without returns keeps its line ends. -/
theorem Text.unifyLineEnds_of_not_mem {t : Text} (h : '\r' ∉ t) : t.unifyLineEnds = t := by
  induction t using unifyLineEnds.induct with
  | case1 => rfl
  | case2 | case3 => exact absurd List.mem_cons_self h
  | case4 c cs hpair hreturn ih =>
    rw [unifyLineEnds.eq_4 c cs hpair hreturn, ih fun hmem => h (List.mem_cons_of_mem c hmem)]

namespace Files

variable {fs fs' : Files} {l m : Location} {i : Item} {p : Path} {bytes : ByteArray}

/-! ## Places -/

/-- What is placed stands where it was placed. -/
theorem item?_place_self (hl : l ≠ []) (i : Item) : (fs.place l i).item? l = some i := by
  rw [item?, if_neg (by simpa using hl)]
  exact Entries.get?_put_self l i fs.items

/-- Nothing else changes when something is placed. -/
theorem item?_place_of_ne (h : m ≠ l) (i : Item) : (fs.place l i).item? m = fs.item? m := by
  unfold item?
  split
  · rfl
  · exact Entries.get?_put_of_ne h i fs.items

/-- The bytes of a file at a place. -/
def content? (fs : Files) (l : Location) : Option ByteArray :=
  match fs.item? l with
  | some (.file bytes) => some bytes
  | _ => none

/-- The content at a location is decided by what stands there. -/
theorem content?_congr (h : fs'.item? l = fs.item? l) : fs'.content? l = fs.content? l := by
  rw [content?, content?, h]

/-! ## Places along a path -/

/-- The place one name further on. -/
def next (l : Location) (name : Text) : Location := if name = ".." then l.dropLast else l ++ [name]

/-- The places that are entered by names: each name is looked up in one of them. -/
def entered (l : Location) : List Text → List Location
  | [] => []
  | name :: names => l :: entered (next l name) names

/-- The place behind the last name. -/
def goal (l : Location) (names : List Text) : Location := names.foldl next l

/-- The place that a path starts from. -/
def start (fs : Files) (p : Path) : Location := if p.anchor.isEmpty then fs.current else []

/-- The last step of a walk enters where the walk without it ends. -/
theorem entered_concat (l : Location) (names : List Text) (name : Text) :
    entered l (names ++ [name]) = entered l names ++ [goal l names] := by
  induction names generalizing l with
  | nil => rfl
  | cons n names ih => exact congrArg (l :: ·) (ih (next l n))

/-- A step is taken from a directory, and leads to the next location whatever is there. -/
theorem enter_eq_ok_iff {name : Text} :
    fs.enter l name = .ok m ↔ fs.item? l = some .directory ∧ m = next l name := by
  unfold enter
  split
  · next h => simp [h]
  · next h => simp [h]
  · next h => simp [h, next, eq_comm]

/-- Names lead to a place exactly if directories are at all the places that are entered. -/
theorem follow_eq_ok_iff {names : List Text} :
    fs.follow l names = .ok m ↔ (∀ q ∈ entered l names, fs.item? q = some .directory) ∧
      m = goal l names := by
  induction names generalizing l with
  | nil => simp [follow, entered, goal, eq_comm]
  | cons name names ih =>
    rw [entered, List.forall_mem_cons, goal, List.foldl_cons, follow]
    cases henter : fs.enter l name with
    | error e =>
      have hnot : ¬ fs.item? l = some .directory := fun hdir => by
        rw [enter_eq_ok_iff.mpr ⟨hdir, rfl⟩] at henter
        cases henter
      simp [hnot]
    | ok q =>
      obtain ⟨hdir, rfl⟩ := enter_eq_ok_iff.mp henter
      simp only [hdir, true_and]
      exact ih

/-- Where no file is in the way, only a missing directory is. -/
theorem follow_of_no_file {names : List Text}
    (h : ∀ q ∈ entered l names, ∀ bytes, fs.item? q ≠ some (.file bytes)) :
    (∃ m, fs.follow l names = .ok m) ∨ fs.follow l names = .error .notFound := by
  induction names generalizing l with
  | nil => exact Or.inl ⟨l, rfl⟩
  | cons name names ih =>
    obtain ⟨hfirst, hrest⟩ := List.forall_mem_cons.mp h
    rw [follow]
    cases hitem : fs.item? l with
    | none =>
      have henter : fs.enter l name = .error .notFound := by rw [enter, hitem]
      exact Or.inr (by rw [henter])
    | some i =>
      cases i with
      | file bytes => exact absurd hitem (hfirst bytes)
      | directory =>
        rw [enter_eq_ok_iff.mpr ⟨hitem, rfl⟩]
        exact ih hrest

/-- The places that a path enters. -/
def route (fs : Files) (p : Path) : List Location := entered (fs.start p) p.names

/-- The place that a path leads to, if it leads anywhere. -/
def target (fs : Files) (p : Path) : Location := goal (fs.start p) p.names

/-- The places that a path enters, and the one that it leads to. -/
def places (fs : Files) (p : Path) : List Location := fs.route p ++ [fs.target p]

/-- The places of a path are those on its route and its target. -/
theorem forall_mem_places {P : Location → Prop} :
    (∀ q ∈ fs.places p, P q) ↔ (∀ q ∈ fs.route p, P q) ∧ P (fs.target p) := by
  rw [places, List.forall_mem_append, List.forall_mem_singleton]

/-- The route to a name is all that leads to its parent, and the parent. -/
theorem route_concat (fs : Files) (anchor : Text) (names : List Text) (name : Text) :
    fs.route ⟨anchor, names ++ [name]⟩ = fs.places ⟨anchor, names⟩ :=
  entered_concat _ names name

/-- A path is located if its route goes through directories, and its target is where it leads. -/
theorem locate_eq_ok_iff :
    fs.locate p = .ok l ↔ (∀ q ∈ fs.route p, fs.item? q = some .directory) ∧ l = fs.target p :=
  follow_eq_ok_iff

section Current

variable (h : fs'.current = fs.current)

include h

/-- Of a tree, a route depends on the current directory only. -/
theorem route_eq_of_current (p : Path) : fs'.route p = fs.route p := by
  rw [route, route, start, start, h]

theorem target_eq_of_current (p : Path) : fs'.target p = fs.target p := by
  rw [target, target, start, start, h]

theorem places_eq_of_current (p : Path) : fs'.places p = fs.places p := by
  rw [places, places, route_eq_of_current h, target_eq_of_current h]

end Current

/-! ## Making directories -/

/-- Of two trees the second one has more directories, all of them at the given places, and is the
first one otherwise. -/
structure Gains (ls : List Location) (fs fs' : Files) : Prop where
  current : fs'.current = fs.current
  item : ∀ l, fs'.item? l = fs.item? l ∨ l ∈ ls ∧ fs.item? l = none ∧ fs'.item? l = some .directory

namespace Gains

variable {ls ms : List Location}

theorem refl (ls : List Location) (fs : Files) : Gains ls fs fs := ⟨rfl, fun _ => Or.inl rfl⟩

theorem mono (h : Gains ls fs fs') (hsub : ls ⊆ ms) : Gains ms fs fs' :=
  ⟨h.current, fun l => (h.item l).imp_right fun hnew => ⟨hsub hnew.1, hnew.2⟩⟩

theorem trans {fs₁ fs₂ fs₃ : Files} (h : Gains ls fs₁ fs₂) (h' : Gains ls fs₂ fs₃) :
    Gains ls fs₁ fs₃ := by
  refine ⟨h'.current.trans h.current, fun l => ?_⟩
  rcases h.item l with heq | ⟨hl, hnone, hdir⟩
  · rw [← heq]
    exact h'.item l
  · rcases h'.item l with heq | ⟨-, hnone', -⟩
    · exact Or.inr ⟨hl, hnone, heq.trans hdir⟩
    · rw [hdir] at hnone'
      cases hnone'

theorem directory (h : Gains ls fs fs') (hl : fs.item? l = some .directory) :
    fs'.item? l = some .directory := by
  rcases h.item l with heq | ⟨-, -, hdir⟩
  · rw [heq, hl]
  · exact hdir

/-- A gain neither makes nor changes a file. -/
theorem item?_eq_file_iff (h : Gains ls fs fs') :
    fs'.item? l = some (.file bytes) ↔ fs.item? l = some (.file bytes) := by
  rcases h.item l with heq | ⟨-, hnone, hdir⟩
  · rw [heq]
  · rw [hnone, hdir]
    simp

theorem content?_eq (h : Gains ls fs fs') (l : Location) : fs'.content? l = fs.content? l := by
  rcases h.item l with heq | ⟨-, hnone, hdir⟩
  · exact content?_congr heq
  · rw [content?, content?, hnone, hdir]

end Gains

/-- A directory is made where nothing stands yet. -/
theorem makeDirectory_eq_ok_iff : fs.makeDirectory p = .ok fs' ↔
    ∃ l, fs.locate p = .ok l ∧ fs.item? l = none ∧ fs' = fs.place l .directory := by
  unfold makeDirectory
  cases fs.locate p with
  | error e => simp
  | ok l => cases hitem : fs.item? l <;> simp [hitem, eq_comm]

/-- The root stands. -/
theorem ne_nil_of_item?_eq_none (h : fs.item? l = none) : l ≠ [] := by
  rintro rfl
  cases h

/-- Placing a directory where nothing stands is a gain. -/
theorem gains_place (h : fs.item? l = none) : Gains [l] fs (fs.place l .directory) := by
  refine ⟨rfl, fun m => ?_⟩
  by_cases hm : m = l
  · subst hm
    exact Or.inr ⟨List.mem_cons_self, h, item?_place_self (ne_nil_of_item?_eq_none h) .directory⟩
  · exact Or.inl (item?_place_of_ne hm .directory)

theorem isDirectory_iff :
    fs.isDirectory p = true ↔ ∃ l, fs.locate p = .ok l ∧ fs.item? l = some .directory := by
  unfold isDirectory at?
  cases fs.locate p with
  | error e => simp
  | ok l =>
    simp only [Except.ok.injEq, exists_eq_left']
    cases fs.item? l with
    | none => simp
    | some i => cases i <;> simp

/-- A directory that is ensured is there, with all that lead to it. -/
theorem ensureDirectory_eq_ok (h : fs.ensureDirectory p = .ok fs') :
    Gains (fs.places p) fs fs' ∧ ∀ q ∈ fs.places p, fs'.item? q = some .directory := by
  unfold ensureDirectory at h
  split at h
  · next made hmake =>
    obtain rfl : made = fs' := Except.ok.inj h
    obtain ⟨l, hlocate, hnone, rfl⟩ := makeDirectory_eq_ok_iff.mp hmake
    obtain ⟨hroute, rfl⟩ := locate_eq_ok_iff.mp hlocate
    have hgains := (gains_place hnone).mono (List.subset_append_right (fs.route p) _)
    refine ⟨hgains, forall_mem_places.mpr ⟨fun q hq => hgains.directory (hroute q hq), ?_⟩⟩
    exact item?_place_self (ne_nil_of_item?_eq_none hnone) .directory
  · cases h
  · split at h
    · next hdir =>
      obtain rfl : fs = fs' := Except.ok.inj h
      obtain ⟨l, hlocate, hitem⟩ := isDirectory_iff.mp hdir
      obtain ⟨hroute, rfl⟩ := locate_eq_ok_iff.mp hlocate
      exact ⟨.refl _ fs, forall_mem_places.mpr ⟨hroute, hitem⟩⟩
    · cases h

/-- Where directories lead to a place that holds no file, a directory can be ensured. -/
theorem exists_ensureDirectory (hroute : ∀ q ∈ fs.route p, fs.item? q = some .directory)
    (htarget : ∀ bytes, fs.item? (fs.target p) ≠ some (.file bytes)) :
    ∃ fs', fs.ensureDirectory p = .ok fs' := by
  have hlocate : fs.locate p = .ok (fs.target p) := locate_eq_ok_iff.mpr ⟨hroute, rfl⟩
  cases hitem : fs.item? (fs.target p) with
  | none =>
    refine ⟨fs.place (fs.target p) .directory, ?_⟩
    rw [ensureDirectory, makeDirectory_eq_ok_iff.mpr ⟨_, hlocate, hitem, rfl⟩]
  | some i =>
    cases i with
    | file bytes => exact absurd hitem (htarget bytes)
    | directory =>
      -- nothing can be made here, but that is no failure
      have hmake : fs.makeDirectory p = .error .alreadyExists := by
        rw [makeDirectory, hlocate]
        simp only [hitem]
      have hdir := isDirectory_iff.mpr ⟨_, hlocate, hitem⟩
      exact ⟨fs, by simp [ensureDirectory, hmake, hdir]⟩

/-- Where the parent of a directory is missing, the directory is not made. -/
theorem ensureDirectory_eq_notFound (h : fs.locate p = .error .notFound) :
    fs.ensureDirectory p = .error .notFound := by
  have hmake : fs.makeDirectory p = .error .notFound := by rw [makeDirectory, h]
  rw [ensureDirectory, hmake]

/-- Making a directory gains at most directories on its way. -/
theorem gains_ofStep (fs : Files) (p : Path) :
    Gains (fs.places p) fs (Attempt.ofStep fs (fs.ensureDirectory p)).files := by
  cases hstep : fs.ensureDirectory p with
  | error e => exact .refl _ fs
  | ok made => exact (ensureDirectory_eq_ok hstep).1

/-- Directories that are made one after the other are all that is changed, wherever it ends. -/
theorem gains_ensureDirectories (fs : Files) (anchor : Text) (names : List Text) :
    Gains (fs.places ⟨anchor, names.reverse⟩) fs (fs.ensureDirectories anchor names).files := by
  induction names with
  | nil => exact gains_ofStep fs ⟨anchor, []⟩
  | cons name names ih =>
    have hsub : fs.places ⟨anchor, names.reverse⟩ ⊆ fs.places ⟨anchor, (name :: names).reverse⟩ := by
      rw [List.reverse_cons, ← route_concat fs anchor names.reverse name]
      exact List.subset_append_left _ _
    rw [ensureDirectories]
    split
    · rw [Attempt.andThen]
      split
      · -- the last directory is looked for once more, in the tree that has those before it
        have hlast := gains_ofStep (fs.ensureDirectories anchor names).files
          ⟨anchor, (name :: names).reverse⟩
        rw [places_eq_of_current ih.current] at hlast
        exact (ih.mono hsub).trans hlast
      · exact ih.mono hsub
    · exact gains_ofStep fs ⟨anchor, (name :: names).reverse⟩

/-- After a directory was made, all places on its way are directories. -/
theorem ensured_ofStep {p : Path} (hcurrent : fs'.current = fs.current)
    (h : (Attempt.ofStep fs' (fs'.ensureDirectory p)).error = none) :
    ∀ q ∈ fs.places p,
      (Attempt.ofStep fs' (fs'.ensureDirectory p)).files.item? q = some .directory := by
  rw [← places_eq_of_current hcurrent]
  cases hstep : fs'.ensureDirectory p with
  | error e =>
    rw [hstep] at h
    cases h
  | ok made => exact (ensureDirectory_eq_ok hstep).2

/-- Whichever step is the last one, it ensures the directory itself. -/
theorem ensured_of_ensureDirectories {anchor : Text} {names : List Text}
    (h : (fs.ensureDirectories anchor names).error = none) :
    ∀ q ∈ fs.places ⟨anchor, names.reverse⟩,
      (fs.ensureDirectories anchor names).files.item? q = some .directory := by
  cases names with
  | nil => exact ensured_ofStep rfl h
  | cons name names =>
    rw [ensureDirectories] at h ⊢
    split at h
    · rw [Attempt.andThen] at h ⊢
      split at h
      · exact ensured_ofStep (gains_ensureDirectories fs anchor names).current h
      · next herror =>
        rw [herror] at h
        cases h
    · exact ensured_ofStep rfl h

/-- A step that can be taken makes an attempt succeed. -/
theorem error_ofStep_eq_none {step : Except FileError Files} (h : ∃ made, step = .ok made) :
    (Attempt.ofStep fs step).error = none := by
  obtain ⟨made, rfl⟩ := h
  rfl

/-- Directories can be made unless a file is in their way. -/
theorem ensureDirectories_of_no_file {anchor : Text} {names : List Text}
    (h : ∀ q ∈ fs.places ⟨anchor, names.reverse⟩, ∀ bytes, fs.item? q ≠ some (.file bytes)) :
    (fs.ensureDirectories anchor names).error = none := by
  induction names with
  | nil =>
    have htarget := (forall_mem_places.mp h).2
    exact error_ofStep_eq_none (exists_ensureDirectory (fun _ hq => absurd hq List.not_mem_nil) htarget)
  | cons name names ih =>
    obtain ⟨hroute, htarget⟩ := forall_mem_places.mp h
    have hplaces : fs.route ⟨anchor, (name :: names).reverse⟩ = fs.places ⟨anchor, names.reverse⟩ := by
      rw [List.reverse_cons, route_concat]
    rw [ensureDirectories]
    rcases follow_of_no_file hroute with ⟨m, hm⟩ | hmissing
    · obtain ⟨made, hmade⟩ := exists_ensureDirectory (follow_eq_ok_iff.mp hm).1 htarget
      simp only [hmade]
      rfl
    · -- the directories that lead here are made first, and then nothing is in the way
      have hgains := gains_ensureDirectories fs anchor names
      have hmade : (fs.ensureDirectories anchor names).error = none := ih (hplaces ▸ hroute)
      rw [ensureDirectory_eq_notFound hmissing]
      show (Attempt.andThen _ _).error = none
      rw [Attempt.andThen, hmade]
      refine error_ofStep_eq_none (exists_ensureDirectory ?_ fun bytes hfile => ?_)
      · rw [route_eq_of_current hgains.current, hplaces]
        exact ensured_of_ensureDirectories hmade
      · rw [target_eq_of_current hgains.current, hgains.item?_eq_file_iff] at hfile
        exact htarget bytes hfile

/-- Directories can be made exactly if no file stands where one of them has to be. -/
theorem ensureDirectories_error_eq_none_iff {anchor : Text} {names : List Text} :
    (fs.ensureDirectories anchor names).error = none ↔
      ∀ q ∈ fs.places ⟨anchor, names.reverse⟩, ∀ bytes, fs.item? q ≠ some (.file bytes) := by
  refine ⟨fun h q hq bytes hfile => ?_, ensureDirectories_of_no_file⟩
  have hkept := (gains_ensureDirectories fs anchor names).item?_eq_file_iff.mpr hfile
  rw [ensured_of_ensureDirectories h q hq] at hkept
  cases hkept

/-! ## Writing a file

A file is written after the directories that its path enters are made. -/

/-- The route to a file is the places of its parent. -/
theorem route_eq_places_parent (fs : Files) (h : p.names ≠ []) : fs.route p = fs.places p.parent := by
  obtain ⟨anchor, names⟩ := p
  have hsplit : names.dropLast ++ [names.getLast h] = names := List.dropLast_concat_getLast h
  have hroute := route_concat fs anchor names.dropLast (names.getLast h)
  rwa [hsplit] at hroute

/-- A path at which a file can be written: it has a name, no file stands where a directory has to
be, and no directory where the file has to be, neither one that is there nor one that is made on the
way. -/
structure IsWritable (fs : Files) (p : Path) : Prop where
  named : p.names ≠ []
  no_file : ∀ q ∈ fs.route p, ∀ bytes, fs.item? q ≠ some (.file bytes)
  not_entered : fs.target p ∉ fs.route p
  no_directory : fs.item? (fs.target p) ≠ some .directory

/-- A tree after a file is written: the file is there, its path enters directories, and no other file is
changed. -/
structure Written (fs : Files) (p : Path) (bytes : ByteArray) (fs' : Files) : Prop where
  current : fs'.current = fs.current
  directories : ∀ q ∈ fs.route p, fs'.item? q = some .directory
  file : fs'.item? (fs.target p) = some (.file bytes)
  others : ∀ l, l ≠ fs.target p → fs'.content? l = fs.content? l

theorem gains_ensureParent (fs : Files) (p : Path) :
    Gains (fs.places p.parent) fs (fs.ensureParent p).files := by
  have hgains := gains_ensureDirectories fs p.anchor p.parent.names.reverse
  rwa [List.reverse_reverse] at hgains

/-- The parent of a file can be made exactly if no file is in its way. -/
theorem ensureParent_error_eq_none_iff : (fs.ensureParent p).error = none ↔
    ∀ q ∈ fs.places p.parent, ∀ bytes, fs.item? q ≠ some (.file bytes) := by
  rw [ensureParent, ensureDirectories_error_eq_none_iff, List.reverse_reverse]
  rfl

/-- After the parent was made, all places on its way are directories. -/
theorem ensured_of_ensureParent (h : (fs.ensureParent p).error = none) :
    ∀ q ∈ fs.places p.parent, (fs.ensureParent p).files.item? q = some .directory := by
  have hensured := ensured_of_ensureDirectories h
  rw [List.reverse_reverse] at hensured
  exact hensured

/-- Bytes are written where a path is located and no directory stands. -/
theorem writeBytes_eq_ok_iff : fs.writeBytes p bytes = .ok fs' ↔
    ∃ l, fs.locate p = .ok l ∧ fs.item? l ≠ some .directory ∧ fs' = fs.place l (.file bytes) := by
  unfold writeBytes
  cases fs.locate p with
  | error e => simp
  | ok l =>
    simp only [Except.ok.injEq, exists_eq_left']
    split
    · next h => simp [h]
    · next h =>
      have hne : fs.item? l ≠ some .directory := h
      simp [hne, eq_comm]

/-- Two attempts succeed exactly if the first does and then the second. -/
theorem andThen_eq_ok_iff {a : Attempt} {step : Files → Except FileError Files} :
    a.andThen step = ⟨fs', none⟩ ↔ a.error = none ∧ step a.files = .ok fs' := by
  obtain ⟨files, error⟩ := a
  unfold Attempt.andThen
  cases error with
  | some e => simp
  | none => cases step files <;> simp [Attempt.ofStep]

/-- Where a file can be written, writing succeeds and leaves its bytes there. -/
theorem IsWritable.write (h : fs.IsWritable p) (bytes : ByteArray) :
    ∃ fs', (fs.ensureParent p).andThen (·.writeBytes p bytes) = ⟨fs', none⟩ ∧
      Written fs p bytes fs' := by
  have hgains := gains_ensureParent fs p
  have hplaces := route_eq_places_parent fs h.named
  have hparent : (fs.ensureParent p).error = none :=
    ensureParent_error_eq_none_iff.mpr (hplaces ▸ h.no_file)
  have hensured := ensured_of_ensureParent hparent
  rw [← hplaces] at hensured
  have hlocate : (fs.ensureParent p).files.locate p = .ok (fs.target p) := by
    rw [locate_eq_ok_iff, route_eq_of_current hgains.current, target_eq_of_current hgains.current]
    exact ⟨hensured, rfl⟩
  -- a directory that is made on the way is entered, and the place of the file is not
  have hitem : (fs.ensureParent p).files.item? (fs.target p) ≠ some .directory := by
    rcases hgains.item (fs.target p) with heq | ⟨hmem, -, -⟩
    · rw [heq]
      exact h.no_directory
    · exact absurd (hplaces ▸ hmem) h.not_entered
  have hroot : fs.target p ≠ [] := fun hnil => hitem (hnil ▸ rfl)
  refine ⟨_, andThen_eq_ok_iff.mpr ⟨hparent, writeBytes_eq_ok_iff.mpr ⟨_, hlocate, hitem, rfl⟩⟩, ?_⟩
  exact {
    current := hgains.current
    directories := fun q hq => by
      have hq' : q ≠ fs.target p := fun heq => h.not_entered (heq ▸ hq)
      rw [item?_place_of_ne hq']
      exact hensured q hq
    file := item?_place_self hroot (.file bytes)
    others := fun l hl => (content?_congr (item?_place_of_ne hl _)).trans (hgains.content?_eq l) }

/-- Where writing succeeds, a file can be written. -/
theorem isWritable_of_write (h : (fs.ensureParent p).andThen (·.writeBytes p bytes) = ⟨fs', none⟩) :
    fs.IsWritable p := by
  have hgains := gains_ensureParent fs p
  obtain ⟨hparent, hwrite⟩ := andThen_eq_ok_iff.mp h
  obtain ⟨l, hlocate, hitem, -⟩ := writeBytes_eq_ok_iff.mp hwrite
  obtain ⟨hroute, rfl⟩ := locate_eq_ok_iff.mp hlocate
  rw [route_eq_of_current hgains.current] at hroute
  rw [target_eq_of_current hgains.current] at hitem
  have hnamed : p.names ≠ [] := by
    intro hnames
    -- a path without names is its own parent, so there is a directory where it leads
    have hsame : fs.target p.parent = fs.target p := by
      rw [target, target, Path.parent, hnames]
      rfl
    exact hitem (hsame ▸ (forall_mem_places.mp (ensured_of_ensureParent hparent)).2)
  refine ⟨hnamed, ?_, fun hmem => hitem (hroute _ hmem), fun hdir => hitem (hgains.directory hdir)⟩
  rw [route_eq_places_parent fs hnamed]
  exact ensureParent_error_eq_none_iff.mp hparent

/-- Writing that succeeds leaves the bytes there and all else as it was. -/
theorem written_of_write (h : (fs.ensureParent p).andThen (·.writeBytes p bytes) = ⟨fs', none⟩) :
    Written fs p bytes fs' := by
  obtain ⟨made, hwrite, hwritten⟩ := (isWritable_of_write h).write bytes
  obtain rfl : fs' = made := congrArg Attempt.files (h.symm.trans hwrite)
  exact hwritten

/-- **A file is written exactly if its path is writable.** -/
theorem write_error_eq_none_iff :
    ((fs.ensureParent p).andThen (·.writeBytes p bytes)).error = none ↔ fs.IsWritable p := by
  refine ⟨fun h => ?_, fun h => ?_⟩
  · generalize hwrite : (fs.ensureParent p).andThen (·.writeBytes p bytes) = attempt at h
    obtain ⟨fs', error⟩ := attempt
    obtain rfl : error = none := h
    exact isWritable_of_write hwrite
  · obtain ⟨fs', hwrite, -⟩ := h.write bytes
    rw [hwrite]

/-- An attempt to write that fails changes no file. -/
theorem content?_of_write_error {e : FileError}
    (h : ((fs.ensureParent p).andThen (·.writeBytes p bytes)).error = some e) (l : Location) :
    ((fs.ensureParent p).andThen (·.writeBytes p bytes)).files.content? l = fs.content? l := by
  have hkept := (gains_ensureParent fs p).content?_eq l
  rw [Attempt.andThen] at h ⊢
  split at h
  · cases hwrite : (fs.ensureParent p).files.writeBytes p bytes with
    | error e' => exact hkept
    | ok made =>
      rw [hwrite] at h
      cases h
  · exact hkept

/-- A text without carriage returns is read as it was encoded. -/
theorem readText_of_encode {t : Text} (h : fs.readBytes p = .ok (Text.encode t)) (hreturn : '\r' ∉ t) :
    fs.readText p = .ok t := by
  rw [readText, h]
  simp only [Text.decode?_encode, Text.unifyLineEnds_of_not_mem hreturn]

namespace Written

variable (h : Written fs p bytes fs')

include h

/-- A path that was written is located at its target. -/
theorem locate : fs'.locate p = .ok (fs.target p) := by
  rw [locate_eq_ok_iff, route_eq_of_current h.current, target_eq_of_current h.current]
  exact ⟨h.directories, rfl⟩

/-- The bytes that were written are read back. -/
theorem readBytes : fs'.readBytes p = .ok bytes := by
  rw [Files.readBytes, at?, h.locate]
  simp only [h.file]

/-- What is written later takes the place of what was written before. -/
theorem trans {bytes' : ByteArray} {fs'' : Files} (h' : Written fs' p bytes' fs'') :
    Written fs p bytes' fs'' := by
  have htarget := target_eq_of_current h.current p
  exact {
    current := h'.current.trans h.current
    directories := fun q hq => h'.directories q (route_eq_of_current h.current p ▸ hq)
    file := htarget ▸ h'.file
    others := fun l hl => (h'.others l (htarget ▸ hl)).trans (h.others l hl) }

/-- Writing the same bytes once more changes no file. -/
theorem content?_of_written {fs'' : Files} (h' : Written fs' p bytes fs'') (l : Location) :
    fs''.content? l = fs'.content? l := by
  by_cases hl : l = fs'.target p
  · have hbefore : fs'.item? l = some (.file bytes) := by
      rw [hl, target_eq_of_current h.current]
      exact h.file
    have hafter : fs''.item? l = some (.file bytes) := by
      rw [hl]
      exact h'.file
    exact content?_congr (hafter.trans hbefore.symm)
  · exact h'.others l hl

/-- A file that was written can be written again. -/
theorem isWritable (hnamed : p.names ≠ []) : fs'.IsWritable p := by
  have hroute := route_eq_of_current h.current p
  have htarget := target_eq_of_current h.current p
  refine ⟨hnamed, ?_, ?_, ?_⟩
  · intro q hq bytes hfile
    rw [h.directories q (hroute ▸ hq)] at hfile
    cases hfile
  · intro hmem
    -- the file itself would be a directory
    have hdir := h.directories _ (htarget ▸ hroute ▸ hmem)
    rw [h.file] at hdir
    cases hdir
  · rw [htarget, h.file]
    exact fun hdir => nomatch hdir

end Written

end Files

end AttrFold
