import AttrFold.Proofs.Store.Settings

/-!
# One file for each mapping

Which bytes a settings file has is a matter of the mapping that it holds, and not of how the mapping
came about: sets that lead to the same mapping leave the same file, in whatever order they were made
and however often a key was set.

## The crux

Every set reads what the one before it wrote, and that is sorted; the new key goes to the end or
takes an old place. Writing goes through the sorted form, so with every write the places are
forgotten (`Usable.written_setEach`). What is written can be read back, so nothing but the places is
forgotten: `fileText_eq_iff`.

* **`same_bytes_iff_same_mapping`** — sets in a row, compared by the mappings that they lead to; and
  what the store has written it writes again as it is.
-/

namespace AttrFold

/-- Different texts have different bytes. -/
theorem Text.encode_inj {s t : Text} : encode s = encode t ↔ s = t := by
  refine ⟨fun h => ?_, congrArg encode⟩
  have hdecoded := congrArg decode? h
  rw [decode?_encode, decode?_encode] at hdecoded
  exact Option.some.inj hdecoded

namespace FileStore

open Json (Agrees)

variable {fs fs' : Files} {file : Path} {members others : Json.Object}

/-- **Texts of settings files are equal exactly if the same is found in them under every key.** -/
theorem fileText_eq_iff (hkeys : (Json.obj members).Distinct) (hfree : (Json.obj members).FloatFree)
    (hkeys' : (Json.obj others).Distinct) (hfree' : (Json.obj others).FloatFree) :
    fileText members = fileText others ↔ (Json.obj members).Agrees (.obj others) := by
  rw [hkeys.agrees_iff_sorted_eq hkeys']
  refine ⟨fun h => ?_, fun h => ?_⟩
  · have hread : Json.read? (fileText members) = some (Json.obj members).sorted :=
      hkeys.read?_indented hfree
    have hread' : Json.read? (fileText others) = some (Json.obj others).sorted :=
      hkeys'.read?_indented hfree'
    rw [h, hread'] at hread
    exact (Option.some.inj hread).symm
  · show (Json.obj members).indented 0 ++ ['\n'] = (Json.obj others).indented 0 ++ ['\n']
    rw [← hkeys.indented_sorted, ← hkeys'.indented_sorted, h]

/-! ## Writing again what was read -/

/-- Nothing is changed when the settings file is read and what was read is written. -/
def KeptByRewriting (fs : Files) (file : Path) : Prop :=
  ∃ members fs', readAll fs file = .ok (members, []) ∧ writeAll fs file members = ⟨fs', none⟩
    ∧ ∀ l, fs'.content? l = fs.content? l

/-- What comes back is what was written with its members sorted, and sorted or not they have the
same text. -/
theorem exists_rewritten (hkeys : (Json.obj members).Distinct) (hnamed : file.names ≠ [])
    (h : Files.Written fs file (Text.encode (fileText members)) fs') :
    ∃ fs'', writeAll fs' file (Json.sortedObject members) = ⟨fs'', none⟩
      ∧ fs''.readBytes file = fs'.readBytes file ∧ ∀ l, fs''.content? l = fs'.content? l := by
  obtain ⟨fs'', hwrite, hwritten⟩ := (h.isWritable hnamed).write (Text.encode (fileText members))
  refine ⟨fs'', ?_, hwritten.readBytes.trans h.readBytes.symm, h.content?_of_written hwritten⟩
  rw [writeAll, fileText_sortedObject hkeys]
  exact hwrite

/-- A file that was written keeps its bytes when it is read and written again. -/
theorem keptByRewriting_of_written (hkeys : (Json.obj members).Distinct)
    (hfree : (Json.obj members).FloatFree) (hnamed : file.names ≠ [])
    (h : Files.Written fs file (Text.encode (fileText members)) fs') : KeptByRewriting fs' file := by
  obtain ⟨fs'', hwrite, -, hkept⟩ := exists_rewritten hkeys hnamed h
  exact ⟨Json.sortedObject members, fs'', readAll_of_written hkeys hfree h, hwrite, hkept⟩

/-- Whatever the store writes, it writes again as it is. -/
theorem keptByRewriting_of_writeAll (hkeys : (Json.obj members).Distinct)
    (hfree : (Json.obj members).FloatFree) (h : writeAll fs file members = ⟨fs', none⟩) :
    KeptByRewriting fs' file :=
  keptByRewriting_of_written hkeys hfree (Files.isWritable_of_write h).named (Files.written_of_write h)

/-- Setting a value that is stored changes no file. -/
theorem set_stored (hkeys : (Json.obj members).Distinct) (hfree : (Json.obj members).FloatFree)
    (hnamed : file.names ≠ []) (h : Files.Written fs file (Text.encode (fileText members)) fs')
    {key : Text} {v : Json} (hstored : (held fs' file).get? key = some v) :
    ∃ fs'', (set fs' file key v).1 = ⟨fs'', none⟩ ∧ fs''.readBytes file = fs'.readBytes file
      ∧ ∀ l, fs''.content? l = fs'.content? l := by
  obtain ⟨htext, hheld⟩ := held_of_readAll (readAll_of_written hkeys hfree h)
  obtain ⟨fs'', hwrite, hbytes, hkept⟩ := exists_rewritten hkeys hnamed h
  refine ⟨fs'', ?_, hbytes, hkept⟩
  -- what is written are the members that were read
  rw [set_eq_writeAll htext, Entries.put_of_get? hstored, ← hheld]
  exact hwrite

/-! ## Sets in a row -/

/-- What becomes of a settings file when values are set in it one after the other: all of them are
set, the file has the given bytes and holds the given mapping, and the store writes it again as it
is. -/
structure SetsTo (fs : Files) (file : Path) (news : List (Text × Json)) (mapping : Json.Object)
    (bytes : ByteArray) (fs' : Files) : Prop where
  set : (setEach fs file news).1 = ⟨fs', none⟩
  bytes : fs'.readBytes file = .ok bytes
  mapping : ∃ after, readAll fs' file = .ok (after, []) ∧ (Json.obj mapping).Agrees (.obj after)
  kept : KeptByRewriting fs' file

/-- Setting keys one after the other in a file that can be used leaves the bytes of all of them put
in. -/
theorem Usable.setsTo (h : Usable fs file) {news : List (Text × Json)} (hne : news ≠ [])
    (hnews : ∀ m ∈ news, m.2.Distinct ∧ m.2.FloatFree) :
    ∃ fs', SetsTo fs file news (Entries.putAll news (held fs file))
      (Text.encode (fileText (Entries.putAll news (held fs file)))) fs' := by
  obtain ⟨fs', hset, hwritten⟩ := h.written_setEach hne hnews
  have hkeys := (distinct_held fs file).putAll fun m hm => (hnews m hm).1
  have hfree := h.floatFree.putAll fun m hm => (hnews m hm).2
  exact ⟨fs', {
    set := hset
    bytes := hwritten.readBytes
    mapping := ⟨_, readAll_of_written hkeys hfree hwritten, hkeys.agrees_sorted⟩
    kept := keptByRewriting_of_written hkeys hfree h.writable.named hwritten }⟩

/-- Two members may stand in either order. -/
theorem agrees_swap {k l : Text} {v v' w w' : Json} (hne : k ≠ l) (hv : v.Agrees v')
    (hw : w.Agrees w') : (Json.obj [(k, v), (l, w)]).Agrees (.obj [(l, w'), (k, v')]) := by
  refine .obj fun m => ?_
  by_cases hk : k = m
  · subst hk
    simpa [Entries.get?, hne, Ne.symm hne] using hv
  · by_cases hl : l = m
    · simpa [Entries.get?, hk, hl] using hw
    · simp [Entries.get?, hk, hl]

/-- Sets of different keys may be made in any order. -/
theorem agrees_putAll_of_perm {first second : List (Text × Json)} (hperm : first.Perm second)
    (hnodup : (Entries.keys first).Nodup) (hkeys : (Json.obj (Entries.putAll first members)).Distinct)
    (hkeys' : (Json.obj (Entries.putAll second members)).Distinct) :
    (Json.obj (Entries.putAll first members)).Agrees (.obj (Entries.putAll second members)) := by
  rw [hkeys.agrees_iff_sorted_eq hkeys']
  refine congrArg Json.obj (Json.sortedObject_congr hkeys.nodup_keys hkeys'.nodup_keys fun k => ?_)
  rw [Entries.get?_putAll_of_perm hnodup hperm]

/-- **A settings file is one file for each mapping.** Any two sequences of sets in a usable file
succeed, and they leave the same bytes exactly if they lead to the same mapping, as they do when one
of them is the other in another order and each key is set once. What the store has written, by sets
or as a whole, it writes again as it is. -/
theorem same_bytes_iff_same_mapping {fs : Files} {file : Path} (h : Usable fs file) :
    (∃ before events, readAll fs file = .ok (before, events) ∧
      ∀ first second : List (Text × Json), first ≠ [] → second ≠ [] →
        (∀ m ∈ first ++ second, m.2.Distinct ∧ m.2.FloatFree) →
        ∃ bytes₁ bytes₂ fs₁ fs₂,
          SetsTo fs file first (Entries.putAll first before) bytes₁ fs₁ ∧
          SetsTo fs file second (Entries.putAll second before) bytes₂ fs₂ ∧
          (bytes₁ = bytes₂ ↔
            (Json.obj (Entries.putAll first before)).Agrees (.obj (Entries.putAll second before))) ∧
          (first.Perm second → (Entries.keys first).Nodup → bytes₁ = bytes₂)) ∧
      ∀ (fs fs' : Files) (members : Json.Object), (Json.obj members).Distinct →
        (Json.obj members).FloatFree →
        writeAll fs file members = ⟨fs', none⟩ → KeptByRewriting fs' file := by
  refine ⟨?_, fun fs fs' members hkeys hfree hwrite => keptByRewriting_of_writeAll hkeys hfree hwrite⟩
  obtain ⟨events, hread⟩ := exists_readAll h.isText
  refine ⟨_, events, hread, fun first second hne hne' hnews => ?_⟩
  obtain ⟨hfirst, hsecond⟩ := List.forall_mem_append.mp hnews
  obtain ⟨fs₁, hset⟩ := h.setsTo hne hfirst
  obtain ⟨fs₂, hset'⟩ := h.setsTo hne' hsecond
  have hkeys := (distinct_held fs file).putAll fun m hm => (hfirst m hm).1
  have hkeys' := (distinct_held fs file).putAll fun m hm => (hsecond m hm).1
  have hfree := h.floatFree.putAll fun m hm => (hfirst m hm).2
  have hfree' := h.floatFree.putAll fun m hm => (hsecond m hm).2
  -- the text that is written determines its mapping, and is determined by it
  have hbytes := Text.encode_inj.trans (fileText_eq_iff hkeys hfree hkeys' hfree')
  refine ⟨_, _, fs₁, fs₂, hset, hset', hbytes, fun hperm hnodup => ?_⟩
  exact hbytes.mpr (agrees_putAll_of_perm hperm hnodup hkeys hkeys')

/-- A key that is set twice, and members of a nested object in another order, in a file that did not
exist. -/
theorem same_bytes_iff_same_mapping_nested :
    let file : Path := "a/settings.json"
    let a : Text := "a"
    let b : Text := "b"
    let x : Text := "x"
    let y : Text := "y"
    let yx : Json := .obj [(y, .int (-2)), (x, .str "é")]
    let xy : Json := .obj [(x, .str "é"), (y, .int (-2))]
    let first : List (Text × Json) := [(b, .int 1), (a, yx), (b, .arr [.null])]
    let second : List (Text × Json) := [(a, xy), (b, .arr [.null])]
    Usable {} file ∧ first ≠ [] ∧ second ≠ [] ∧ (∀ m ∈ first ++ second, m.2.Distinct ∧ m.2.FloatFree) ∧
      ∃ bytes fs₁ fs₂, (setEach {} file first).1 = ⟨fs₁, none⟩ ∧
        (setEach {} file second).1 = ⟨fs₂, none⟩ ∧
        fs₁.readBytes file = .ok bytes ∧ fs₂.readBytes file = .ok bytes ∧ KeptByRewriting fs₁ file := by
  intro file a b x y yx xy first second
  have hwritable : Files.IsWritable {} file := Files.write_error_eq_none_iff.mp
    (by decide +kernel : ((Files.ensureParent {} file).andThen (·.writeBytes file .empty)).error = none)
  have husable : Usable {} file := usable_of_missing hwritable rfl
  have hplain : ∀ m ∈ first ++ second, m.2.Distinct ∧ m.2.FloatFree := by
    have hyx : yx.Distinct ∧ yx.FloatFree :=
      ⟨.obj (by decide) (List.forall_mem_cons.mpr ⟨.int _, List.forall_mem_singleton.mpr (.str _)⟩),
        .obj (List.forall_mem_cons.mpr ⟨.int _, List.forall_mem_singleton.mpr (.str _)⟩)⟩
    have hxy : xy.Distinct ∧ xy.FloatFree :=
      ⟨.obj (by decide) (List.forall_mem_cons.mpr ⟨.str _, List.forall_mem_singleton.mpr (.int _)⟩),
        .obj (List.forall_mem_cons.mpr ⟨.str _, List.forall_mem_singleton.mpr (.int _)⟩)⟩
    have hlist : (Json.arr [.null]).Distinct ∧ (Json.arr [.null]).FloatFree :=
      ⟨.arr (List.forall_mem_singleton.mpr .null), .arr (List.forall_mem_singleton.mpr .null)⟩
    simp only [first, second, List.cons_append, List.nil_append, List.forall_mem_cons]
    exact ⟨⟨.int 1, .int 1⟩, hyx, hlist, hxy, hlist, fun m hm => absurd hm List.not_mem_nil⟩
  obtain ⟨⟨before, events, hread, hsets⟩, -⟩ := same_bytes_iff_same_mapping husable
  obtain rfl : [] = before := (Prod.mk.inj (Except.ok.inj hread)).1
  obtain ⟨bytes, bytes', fs₁, fs₂, hset, hset', hbytes, -⟩ :=
    hsets first second (List.cons_ne_nil _ _) (List.cons_ne_nil _ _) hplain
  have hagrees : (Json.obj (Entries.putAll first [])).Agrees (.obj (Entries.putAll second [])) :=
    agrees_swap (by decide) (.arr (.cons .null .nil)) (agrees_swap (by decide) (.int _) (.str _))
  obtain rfl := hbytes.mpr hagrees
  exact ⟨husable, List.cons_ne_nil _ _, List.cons_ne_nil _ _, hplain, bytes, fs₁, fs₂,
    hset.set, hset'.set,
    hset.bytes, hset'.bytes, hset.kept⟩

end FileStore

end AttrFold
