import AttrFold.Proofs.Cli.Delivery
import AttrFold.Proofs.Files.Reading
import AttrFold.Proofs.Path

/-!
# Which files of a batch are summarised

The files of a batch are opened one after the other, in the order of their paths. A file that is
missing or is no text is passed over; any other error ends the batch, and no later file is opened.

## The crux

There are two such errors, and each belongs to a shape of the tree: a path that leads to a
directory, and a path that a file is in the way of (`Obstructs`). Since the paths are sorted, what
an obstructing path hides is what comes after it in their order, however the batch was announced
(`mem_fst_summarised_iff`).

* **`watch_summarises_unless_obstructed`** — a file that can be read has one line, or none where an
  obstructing path of its batch comes before it.
-/

namespace AttrFold.Cli

open FileStore (held)

namespace Watching

variable {fs : Files} {store : Path} {files ps : List Path} {p q : Path}

/-! ## The order of paths -/

theorem pathsLe_total (a b : List Text) : (pathsLe a b || pathsLe b a) = true := by
  induction a generalizing b with
  | nil => rfl
  | cons s a ih =>
    cases b with
    | nil => rfl
    | cons t b =>
      rw [pathsLe, pathsLe]
      by_cases hst : s = t
      · rw [if_pos hst, if_pos hst.symm]
        exact ih b
      · rw [if_neg hst, if_neg (Ne.symm hst)]
        exact Text.le_total s t

theorem pathsLe_antisymm {a b : List Text} (hab : pathsLe a b = true) (hba : pathsLe b a = true) :
    a = b := by
  induction a generalizing b with
  | nil =>
    cases b with
    | nil => rfl
    | cons t b => cases hba
  | cons s a ih =>
    cases b with
    | nil => cases hab
    | cons t b =>
      rw [pathsLe] at hab hba
      by_cases hst : s = t
      · rw [if_pos hst] at hab
        rw [if_pos hst.symm] at hba
        rw [hst, ih hab hba]
      · rw [if_neg hst] at hab
        rw [if_neg (Ne.symm hst)] at hba
        exact absurd (Text.le_antisymm hab hba) hst

theorem pathsLe_trans {a b c : List Text} (hab : pathsLe a b = true) (hbc : pathsLe b c = true) :
    pathsLe a c = true := by
  induction a generalizing b c with
  | nil => rfl
  | cons s a ih =>
    cases b with
    | nil => cases hab
    | cons t b =>
      cases c with
      | nil => cases hbc
      | cons u c =>
        rw [pathsLe] at hab hbc ⊢
        -- the first component that differs decides; it may be that of either pair
        by_cases hst : s = t
        · subst hst
          rw [if_pos rfl] at hab
          by_cases hsu : s = u
          · rw [if_pos hsu] at hbc ⊢
            exact ih hab hbc
          · rwa [if_neg hsu] at hbc ⊢
        · rw [if_neg hst] at hab
          by_cases htu : t = u
          · subst htu
            rwa [if_neg hst]
          · rw [if_neg htu] at hbc
            have hsu : s ≠ u := by
              rintro rfl
              exact hst (Text.le_antisymm hab hbc)
            rw [if_neg hsu]
            exact Text.le_trans hab hbc

/-! ## Files that end a batch -/

/-- A path leads to a directory, or a file is in its way. -/
def Obstructs (fs : Files) (p : Path) : Prop := fs.isDirectory p = true ∨ fs.IsBelowFile p

/-- Reading what is in the way fails as a directory or as a path below a file. -/
theorem readText_of_obstructs (h : Obstructs fs p) :
    fs.readText p = .error .isDirectory ∨ fs.readText p = .error .notDirectory := by
  rcases h with hdirectory | hbelow
  · exact .inl (Files.readText_eq_error_iff.mpr (.inr (.inl ⟨rfl, hdirectory⟩)))
  · exact .inr (Files.readText_eq_error_iff.mpr (.inr (.inr (.inl ⟨rfl, hbelow⟩))))

/-- A file as a batch hands it on: its path is read from a text, and its suffix is that of a
language. -/
structure IsHandedOn (p : Path) : Prop where
  wellFormed : p.WellFormed
  isSupported : Language.isSupportedFile p = true

/-- A path leads to nothing, or to a file that is no text. -/
def IsPassed (fs : Files) (p : Path) : Prop :=
  fs.readText p = .error .notFound ∨ fs.readText p = .error .notUtf8

/-- A text can be read, or a path obstructs, or it is passed over. -/
theorem readText_cases (fs : Files) (p : Path) :
    (∃ t, fs.readText p = .ok t) ∨ Obstructs fs p ∨ IsPassed fs p := by
  cases hread : fs.readText p with
  | ok t => exact .inl ⟨t, rfl⟩
  | error e =>
    rcases Files.readText_eq_error_iff.mp hread with ⟨rfl, -⟩ | ⟨-, hdirectory⟩ | ⟨-, hbelow⟩ | ⟨rfl, -⟩
    · exact .inr (.inr (.inr hread))
    · exact .inr (.inl (.inl hdirectory))
    · exact .inr (.inl (.inr hbelow))
    · exact .inr (.inr (.inl hread))

theorem Obstructs.readText_ne_ok (h : Obstructs fs p) (t : Text) : fs.readText p ≠ .ok t := by
  rcases readText_of_obstructs h with hread | hread <;> rw [hread] <;> nofun

theorem IsPassed.readText_ne_ok (h : IsPassed fs p) (t : Text) : fs.readText p ≠ .ok t := by
  rcases h with hread | hread <;> rw [hread] <;> nofun

/-- Nothing is both passed over and in the way. -/
theorem IsPassed.not_obstructs (h : IsPassed fs p) : ¬Obstructs fs p := by
  intro hobstructs
  rcases h with hpassed | hpassed <;> rcases readText_of_obstructs hobstructs with hread | hread <;>
    rw [hpassed] at hread <;> cases hread

namespace IsHandedOn

variable (h : IsHandedOn p)

include h

/-- A file with a text is opened, and the files after it are too. -/
theorem opened_cons_of_text {t : Text} (ht : fs.readText p = .ok t) (ps : List Path) :
    ∃ d, opened fs (p :: ps) = (p, d) :: opened fs ps := by
  obtain ⟨l, hl⟩ := Language.exists_ofPath_of_isSupportedFile h.isSupported
  have hpath := Path.ofText_text h.wellFormed
  have hopen : Document.openFile fs p.text none = .ok ⟨t, l.id⟩ :=
    openFile_eq_ok_iff.mpr ⟨t, l, by rwa [hpath], by rwa [hpath], rfl⟩
  exact ⟨_, by rw [opened, hopen]⟩

/-- A file that cannot be read is passed over or ends the loop, by what is wrong with it. -/
theorem opened_cons_of_error {e : FileError} (hread : fs.readText p = .error e) (ps : List Path) :
    opened fs (p :: ps) = if e = .notFound ∨ e = .notUtf8 then opened fs ps else [] := by
  have hopen : Document.openFile fs p.text none
      = .error (if e = .notFound then .missing p.text else .unreadable e) := by
    rw [Document.openFile, Path.ofText_text h.wellFormed, hread]
    cases e <;> rfl
  rw [opened, hopen]
  cases e <;> rfl

theorem opened_cons_of_obstructs (hobstructs : Obstructs fs p) (ps : List Path) :
    opened fs (p :: ps) = [] := by
  rcases readText_of_obstructs hobstructs with hread | hread <;> exact h.opened_cons_of_error hread ps

theorem opened_cons_of_passed (hpassed : IsPassed fs p) (ps : List Path) :
    opened fs (p :: ps) = opened fs ps := by
  rcases hpassed with hread | hread <;> exact h.opened_cons_of_error hread ps

end IsHandedOn

/-! ## The files of a batch -/

/-- Files are opened in the order in which they are reported. -/
theorem map_fst_opened_sublist (fs : Files) (ps : List Path) :
    List.Sublist ((opened fs ps).map Prod.fst) ps := by
  induction ps with
  | nil => exact .slnil
  | cons p ps ih =>
    unfold opened
    split
    · exact ih.cons_cons p
    · exact ih.cons p
    · exact ih.cons p
    · exact List.nil_sublist _

/-- Of files in order those are opened that can be read and that no obstructing path comes before. -/
theorem mem_fst_opened_iff (hfiles : ∀ q ∈ ps, IsHandedOn q)
    (hsorted : ps.Pairwise fun q r => pathsLe q.components r.components = true) :
    p ∈ (opened fs ps).map Prod.fst ↔ p ∈ ps ∧ (∃ t, fs.readText p = .ok t) ∧
      ∀ q ∈ ps, pathsLe q.components p.components = true → ¬Obstructs fs q := by
  induction ps with
  | nil => simp [opened]
  | cons x ps ih =>
    obtain ⟨hx, hps⟩ := List.forall_mem_cons.mp hfiles
    obtain ⟨hfirst, hrest⟩ := List.pairwise_cons.mp hsorted
    rw [List.forall_mem_cons, List.mem_cons]
    rcases readText_cases fs x with ⟨t, ht⟩ | hobstructs | hpassed
    · -- a file that is read does not keep the others from being read
      have hclear : ¬Obstructs fs x := fun h => h.readText_ne_ok t ht
      obtain ⟨d, hopened⟩ := hx.opened_cons_of_text ht ps
      rw [hopened, List.map_cons, List.mem_cons, ih hps hrest]
      constructor
      · rintro (rfl | ⟨hmem, hread, hall⟩)
        · refine ⟨.inl rfl, ⟨t, ht⟩, fun _ => hclear, fun q hq hle => ?_⟩
          -- only the file itself comes before it and after it
          obtain rfl : q = p := Path.components_injective (hps q hq).wellFormed hx.wellFormed
            (pathsLe_antisymm hle (hfirst q hq))
          exact hclear
        · exact ⟨.inr hmem, hread, fun _ => hclear, hall⟩
      · rintro ⟨rfl | hmem, hread, -, hall⟩
        · exact .inl rfl
        · exact .inr ⟨hmem, hread, hall⟩
    · rw [hx.opened_cons_of_obstructs hobstructs ps]
      refine iff_of_false List.not_mem_nil ?_
      rintro ⟨rfl | hmem, ⟨t, ht⟩, hall, -⟩
      · exact hobstructs.readText_ne_ok t ht
      · exact hall (hfirst p hmem) hobstructs
    · rw [hx.opened_cons_of_passed hpassed ps, ih hps hrest]
      constructor
      · rintro ⟨hmem, hread, hall⟩
        exact ⟨.inr hmem, hread, fun _ => hpassed.not_obstructs, hall⟩
      · rintro ⟨rfl | hmem, ⟨t, ht⟩, -, hall⟩
        · exact absurd ht (hpassed.readText_ne_ok t)
        · exact ⟨hmem, ⟨t, ht⟩, hall⟩

/-- The files of a batch that a line is printed about, when the settings can be read. -/
theorem mem_fst_summarised_iff (hstore : ¬fs.HoldsNoText store) (hfiles : ∀ q ∈ files, IsHandedOn q) :
    p ∈ (summarised fs store files).map Prod.fst ↔ p ∈ files ∧ (∃ t, fs.readText p = .ok t) ∧
      ∀ q ∈ files, pathsLe q.components p.components = true → ¬Obstructs fs q := by
  have htext : fs.readText store ≠ .error .notUtf8 :=
    fun h => hstore (Files.readText_eq_notUtf8_iff.mp h)
  rw [summarised_of_ne_notUtf8 htext]
  have hsorted : (files.mergeSort fun p q => pathsLe p.components q.components).Pairwise
      fun q r => pathsLe q.components r.components = true := by
    refine List.pairwise_mergeSort ?_ ?_ files
    · intro a b c
      exact pathsLe_trans
    · intro a b
      exact pathsLe_total a.components b.components
  have hmem : ∀ q, q ∈ files.mergeSort (fun p q => pathsLe p.components q.components) ↔ q ∈ files :=
    fun q => List.mem_mergeSort
  rw [mem_fst_opened_iff (fun q hq => hfiles q ((hmem q).mp hq)) hsorted]
  simp only [hmem]

/-- No file has two lines. -/
theorem nodup_map_fst_summarised (h : files.Nodup) :
    ((summarised fs store files).map Prod.fst).Nodup := by
  by_cases htext : fs.readText store = .error .notUtf8
  · rw [summarised_of_notUtf8 htext]
    exact .nil
  · rw [summarised_of_ne_notUtf8 htext]
    have hsorted : (files.mergeSort fun p q => pathsLe p.components q.components).Nodup :=
      (List.mergeSort_perm files _).nodup_iff.mpr h
    exact hsorted.sublist (map_fst_opened_sublist fs _)

/-- Only the files that the watcher cares for are reported. -/
theorem isHandedOn_of_mem_reported {changes : List Change}
    (hpaths : ∀ c ∈ changes, ∃ t, c.path = .ofText t)
    (h : p ∈ Change.reported changes) : IsHandedOn p := by
  simp only [Change.reported, List.mem_eraseDups, List.mem_map, List.mem_filter, Change.isReported,
    Bool.and_eq_true] at h
  obtain ⟨c, ⟨hmem, -, hsupported⟩, rfl⟩ := h
  obtain ⟨t, ht⟩ := hpaths c hmem
  exact ⟨ht ▸ Path.wellFormed_ofText t, hsupported⟩

/-- What is taken of a batch are the changes that it reports. -/
theorem exists_changes_of_mem_taken {batches : List Batch} {b : Files × List Path}
    (h : b ∈ taken fs batches) : ∃ batch ∈ batches, b.2 = Change.reported batch.changes := by
  have hmem : b.2 ∈ (taken fs batches).map Prod.snd := List.mem_map_of_mem h
  rw [map_snd_taken, announced, List.map_map] at hmem
  obtain ⟨batch, hbatch, heq⟩ := List.mem_map.mp hmem
  exact ⟨batch, (List.takeWhile_sublist _).mem hbatch, heq.symm⟩

/-- A single batch that is no interrupt is taken in the tree after its own changes. -/
theorem taken_singleton {b : Batch} (h : b.isInterrupt = false) :
    taken fs [b] = [(b.apply fs, Change.reported b.changes)] := by
  rw [taken, h]
  rfl

end Watching

open Watching

/-- What a watch prints, batch by batch. -/
theorem output_watch {fs : Files} {env : Environment} {args : List Text} {store directory : Path}
    (h : AsksWatch fs env args store directory) (batches : List Batch) :
    (run fs env batches args).output
      = markupLine ("[green]Watching[/green] " ++ directory.text ++ " (Ctrl+C to stop)")
        ++ (taken fs batches).flatMap (fun b => printed b.1 store b.2) ++ farewell batches := by
  rw [output_run_of_asksWatch h]
  exact output_run store directory fs _ batches

/-- **A file that can be read has exactly one line, or an obstructing path comes before it and it
has none.** The files that are missing or are no text hide no other file of their batch. -/
theorem watch_summarises_unless_obstructed {fs : Files} {env : Environment} {args : List Text}
    {store directory : Path} (h : AsksWatch fs env args store directory) {batches : List Batch}
    (hpaths : ∀ b ∈ batches, ∀ c ∈ b.changes, ∃ t, c.path = .ofText t) :
    (run fs env batches args).output
        = markupLine ("[green]Watching[/green] " ++ directory.text ++ " (Ctrl+C to stop)")
          ++ (taken fs batches).flatMap (fun b =>
              (summarised b.1 store b.2).flatMap (line (held b.1 store)))
          ++ farewell batches ∧
      ∀ b ∈ taken fs batches, ¬b.1.HoldsNoText store → ∀ p ∈ b.2, ∀ t, b.1.readText p = .ok t →
        ((summarised b.1 store b.2).map Prod.fst).count p = 1 ∧
            (∀ q ∈ b.2, pathsLe q.components p.components = true → ¬Obstructs b.1 q) ∨
          ((summarised b.1 store b.2).map Prod.fst).count p = 0 ∧
            ∃ q ∈ b.2, pathsLe q.components p.components = true ∧ Obstructs b.1 q := by
  refine ⟨?_, fun b hb hstore p hp t ht => ?_⟩
  · exact output_watch h batches
  · obtain ⟨batch, hbatch, hreported⟩ := exists_changes_of_mem_taken hb
    have hfiles : ∀ q ∈ b.2, IsHandedOn q := fun q hq =>
      isHandedOn_of_mem_reported (hpaths batch hbatch) (hreported ▸ hq)
    have hnodup : ((summarised b.1 store b.2).map Prod.fst).Nodup :=
      nodup_map_fst_summarised (hreported ▸ Announcement.nodup_reported batch.changes)
    have hmem := mem_fst_summarised_iff (p := p) hstore hfiles
    by_cases hclear : ∀ q ∈ b.2, pathsLe q.components p.components = true → ¬Obstructs b.1 q
    · exact .inl ⟨List.count_eq_one_of_mem hnodup (hmem.mpr ⟨hp, ⟨t, ht⟩, hclear⟩), hclear⟩
    · refine .inr ⟨List.count_eq_zero.mpr fun hin => hclear (hmem.mp hin).2.2, ?_⟩
      simpa using hclear

/-- Of a directory, a missing file and a page the page comes before the directory and has its line. -/
theorem watch_summarises_unless_obstructed_before_directory :
    let store : Path := "s.json"
    let missing : Path := "a.html"
    let file : Path := "b.html"
    let directory : Path := "c.html"
    let page : Text := "class='a'"
    let batch : Batch := {
      writes := [(directory, .directory), (file, .file (Text.encode page))]
      changes := [⟨.added, directory⟩, ⟨.modified, missing⟩, ⟨.added, file⟩] }
    let tree : Files := { items := [(["c.html"], .directory), (["b.html"], .file (Text.encode page))] }
    let handed : List Path := [directory, missing, file]
    let env : Environment := ⟨"/home", none⟩
    let args : List Text := ["--settings", "s.json", "watch"]
    AsksWatch {} env args store "." ∧ (∀ b ∈ [batch], ∀ c ∈ b.changes, ∃ t, c.path = .ofText t) ∧
      taken {} [batch] = [(tree, handed)] ∧ ¬tree.HoldsNoText store ∧ Obstructs tree directory ∧
      tree.readText file = .ok page ∧ ((summarised tree store handed).map Prod.fst).count file = 1 := by
  intro store missing file directory page batch tree handed env args
  have hasks : AsksWatch {} env args store "." :=
    ⟨⟨some "s.json", false, .watch "."⟩, ".", by decide +kernel, rfl, rfl, by decide +kernel,
      by decide +kernel⟩
  have hpaths : ∀ b ∈ [batch], ∀ c ∈ b.changes, ∃ t, c.path = .ofText t := by
    intro b hb c hc
    obtain rfl := List.mem_singleton.mp hb
    rcases List.mem_cons.mp hc with rfl | hc
    · exact ⟨"c.html", rfl⟩
    rcases List.mem_cons.mp hc with rfl | hc
    · exact ⟨"a.html", rfl⟩
    obtain rfl := List.mem_singleton.mp hc
    exact ⟨"b.html", rfl⟩
  have happly : batch.apply {} = tree := rfl
  have hreported : Change.reported batch.changes = handed := by decide +kernel
  have htaken : taken {} [batch] = [(tree, handed)] := by
    rw [taken_singleton rfl, happly, hreported]
  have hstore : ¬tree.HoldsNoText store := by
    rintro ⟨bytes, hat, -⟩
    cases hat
  have hdirectory : Obstructs tree directory := .inl rfl
  have hread : tree.readText file = .ok page := Files.readText_of_encode rfl (by decide +kernel)
  obtain ⟨-, hlines⟩ := watch_summarises_unless_obstructed hasks hpaths
  have hfile := hlines (tree, handed) (htaken ▸ List.mem_singleton_self _) hstore file
    (by decide +kernel)
    page hread
  refine ⟨hasks, hpaths, htaken, hstore, hdirectory, hread, ?_⟩
  rcases hfile with ⟨hcount, -⟩ | ⟨-, q, hq, hle, hobstructs⟩
  · exact hcount
  · -- no path of the batch that comes before the page obstructs
    rcases List.mem_cons.mp hq with rfl | hq
    · exact absurd hle (by decide +kernel)
    rcases List.mem_cons.mp hq with rfl | hq
    · exact absurd hobstructs (IsPassed.not_obstructs (.inl rfl))
    obtain rfl := List.mem_singleton.mp hq
    exact absurd hread (hobstructs.readText_ne_ok page)

/-- A directory whose name comes before that of a page keeps the page from having a line. -/
theorem directory_hides_later_file :
    let store : Path := "settings.json"
    let directory : Path := "a.html"
    let file : Path := "b.html"
    let settings : Text := "\x7b\"classfold.supportedLanguages\": [\"html\"]\x7d"
    let page : Text := "class='p'"
    let tree : Files := {
      items := [(["a.html"], .directory), (["b.html"], .file (Text.encode page)),
        (["settings.json"], .file (Text.encode settings))] }
    let batch : Batch := { changes := [⟨.added, directory⟩, ⟨.added, file⟩] }
    let env : Environment := ⟨"/home", none⟩
    let args : List Text := ["--settings", "settings.json", "watch", "."]
    AsksWatch tree env args store "." ∧ tree.readText store = .ok settings ∧
      file ∈ Change.reported batch.changes ∧ tree.readText file = .ok page ∧
      (run tree env [batch] args).output = "Watching . (Ctrl+C to stop)\n".toList := by
  intro store directory file settings page tree batch env args
  have hasks : AsksWatch tree env args store "." :=
    ⟨⟨some "settings.json", false, .watch "."⟩, ".", by decide +kernel, rfl, rfl, by decide +kernel,
      by decide +kernel⟩
  have hreported : Change.reported batch.changes = [directory, file] := by decide +kernel
  have hsettings : tree.readText store = .ok settings :=
    Files.readText_of_encode rfl (by decide +kernel)
  have hread : tree.readText file = .ok page := Files.readText_of_encode rfl (by decide +kernel)
  have hsorted : [directory, file].mergeSort (fun p q => pathsLe p.components q.components)
      = [directory, file] :=
    List.mergeSort_of_pairwise (List.pairwise_pair.mpr (by decide +kernel))
  have hhanded : IsHandedOn directory := ⟨Path.wellFormed_ofText "a.html", by decide +kernel⟩
  have htext : tree.readText store ≠ .error .notUtf8 := by simp [hsettings]
  have hprinted : printed tree store [directory, file] = [] := by
    rw [printed, summarised_of_ne_notUtf8 htext, hsorted, hhanded.opened_cons_of_obstructs (.inl rfl)]
    rfl
  have htaken : taken tree [batch] = [(tree, [directory, file])] := by
    have happly : batch.apply tree = tree := rfl
    rw [taken_singleton rfl, happly, hreported]
  refine ⟨hasks, hsettings, hreported ▸ List.mem_cons_of_mem _ List.mem_cons_self, hread, ?_⟩
  rw [output_watch hasks, htaken, List.flatMap_cons, hprinted]
  decide +kernel

end AttrFold.Cli
