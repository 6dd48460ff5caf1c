import AttrFold.Proofs.Files

/-!
# Reading from a file tree

A file is read after its path is followed, and each of the two can fail in two ways. A path cannot
be followed where a directory is missing or a file is in its way (`follow_eq_notDirectory_iff`), and
what lies at its end may be a directory, or a file of bytes that are no text.

## The crux

`readText_eq_error_iff`: the ways to fail exclude each other, and each belongs to one shape of the
tree along the path. So whoever handles some of these errors and not the others treats paths by what
lies along them.
-/

namespace AttrFold

/-- Bytes are no text exactly if they are no UTF-8. -/
theorem Text.decode?_eq_none_iff {bytes : ByteArray} : decode? bytes = none ↔ ¬bytes.IsValidUTF8 := by
  rw [decode?, Option.map_eq_none_iff, String.fromUTF8?]
  split
  · next h => simp [h]
  · next h => simp [h]

namespace Files

variable {fs : Files} {l m : Location} {p : Path} {e : FileError}

/-! ## Paths that cannot be followed -/

/-- A path has to enter a place where a file lies, and enters directories until then. -/
def IsBelowFile (fs : Files) (p : Path) : Prop :=
  ∃ before q after bytes, fs.route p = before ++ q :: after ∧
    (∀ r ∈ before, fs.item? r = some .directory) ∧ fs.item? q = some (.file bytes)

/-- A step fails at a location that is empty, or at a file. -/
theorem enter_eq_error_iff {name : Text} : fs.enter l name = .error e ↔
    e = .notFound ∧ fs.item? l = none ∨
      e = .notDirectory ∧ ∃ bytes, fs.item? l = some (.file bytes) := by
  unfold enter
  split
  · next h => simp [h, eq_comm]
  · next h => simp [h, eq_comm]
  · next h => simp [h]

/-- A walk fails for lack of a directory, in one of two ways. -/
theorem follow_error {names : List Text} (h : fs.follow l names = .error e) :
    e = .notFound ∨ e = .notDirectory := by
  induction names generalizing l with
  | nil => cases h
  | cons name names ih =>
    rw [follow] at h
    cases henter : fs.enter l name with
    | ok q =>
      rw [henter] at h
      exact ih h
    | error e' =>
      rw [henter] at h
      obtain rfl : e' = e := Except.error.inj h
      exact (enter_eq_error_iff.mp henter).imp And.left And.left

/-- A file is in the way of names exactly if it lies at one of the places that they enter, and
directories at those before it. -/
theorem follow_eq_notDirectory_iff {names : List Text} :
    fs.follow l names = .error .notDirectory ↔
      ∃ before q after bytes, entered l names = before ++ q :: after ∧
        (∀ r ∈ before, fs.item? r = some .directory) ∧ fs.item? q = some (.file bytes) := by
  induction names generalizing l with
  | nil => simp [follow, entered]
  | cons name names ih =>
    rw [follow, entered]
    cases hitem : fs.item? l with
    | none =>
      have henter : fs.enter l name = .error .notFound := enter_eq_error_iff.mpr (.inl ⟨rfl, hitem⟩)
      rw [henter]
      refine iff_of_false (by simp) ?_
      rintro ⟨before, q, after, bytes, hsplit, hdirs, hfile⟩
      -- nothing lies at the first place, where a file or a directory would have to
      cases before with
      | nil =>
        obtain ⟨rfl, -⟩ := List.cons.inj hsplit
        rw [hitem] at hfile
        cases hfile
      | cons r before =>
        obtain ⟨rfl, -⟩ := List.cons.inj hsplit
        have hdir := hdirs l List.mem_cons_self
        rw [hitem] at hdir
        cases hdir
    | some i =>
      cases i with
      | file bytes =>
        have henter : fs.enter l name = .error .notDirectory :=
          enter_eq_error_iff.mpr (.inr ⟨rfl, bytes, hitem⟩)
        rw [henter]
        exact iff_of_true rfl ⟨[], l, _, bytes, rfl, fun _ hr => absurd hr List.not_mem_nil, hitem⟩
      | directory =>
        rw [enter_eq_ok_iff.mpr ⟨hitem, rfl⟩]
        show fs.follow (next l name) names = .error .notDirectory ↔ _
        rw [ih]
        constructor
        · rintro ⟨before, q, after, bytes, hsplit, hdirs, hfile⟩
          exact ⟨l :: before, q, after, bytes, congrArg (l :: ·) hsplit,
            List.forall_mem_cons.mpr ⟨hitem, hdirs⟩, hfile⟩
        · rintro ⟨before, q, after, bytes, hsplit, hdirs, hfile⟩
          cases before with
          | nil =>
            obtain ⟨rfl, -⟩ := List.cons.inj hsplit
            rw [hitem] at hfile
            cases hfile
          | cons r before =>
            obtain ⟨rfl, hrest⟩ := List.cons.inj hsplit
            exact ⟨before, q, after, bytes, hrest, (List.forall_mem_cons.mp hdirs).2, hfile⟩

/-- Below a file there is nothing but an error. -/
theorem at?_of_isBelowFile (h : fs.IsBelowFile p) : fs.at? p = .error .notDirectory := by
  have hlocate : fs.locate p = .error .notDirectory := follow_eq_notDirectory_iff.mpr h
  rw [at?, hlocate]

/-- Either a file is in the way of a path, or nothing lies at its end or at a place before it. -/
theorem at?_eq_error_iff : fs.at? p = .error e ↔
    e = .notDirectory ∧ fs.IsBelowFile p ∨ e = .notFound ∧ fs.at? p = .error .notFound := by
  constructor
  · intro h
    have hcases : e = .notFound ∨ e = .notDirectory ∧ fs.IsBelowFile p := by
      unfold at? at h
      cases hlocate : fs.locate p with
      | error e' =>
        rw [hlocate] at h
        obtain rfl : e' = e := Except.error.inj h
        rcases follow_error hlocate with rfl | rfl
        · exact .inl rfl
        · exact .inr ⟨rfl, follow_eq_notDirectory_iff.mp hlocate⟩
      | ok l =>
        rw [hlocate] at h
        cases hitem : fs.item? l with
        | some i => simp [hitem] at h
        | none =>
          simp only [hitem] at h
          exact .inl (Except.error.inj h).symm
    rcases hcases with rfl | hbelow
    · exact .inr ⟨rfl, h⟩
    · exact .inl hbelow
  · rintro (⟨rfl, hbelow⟩ | ⟨rfl, hmissing⟩)
    · exact at?_of_isBelowFile hbelow
    · exact hmissing

/-! ## What is at the end of a path -/

/-- A path leads to a file of bytes that are no text. -/
def HoldsNoText (fs : Files) (p : Path) : Prop :=
  ∃ bytes, fs.at? p = .ok (.file bytes) ∧ ¬bytes.IsValidUTF8

/-- A path is a directory if a directory is found at it. -/
theorem isDirectory_iff_at? : fs.isDirectory p = true ↔ fs.at? p = .ok .directory := by
  unfold isDirectory
  cases fs.at? p with
  | error e => simp
  | ok i => cases i <;> simp

/-- **Why a text cannot be read.** -/
theorem readText_eq_error_iff : fs.readText p = .error e ↔
    e = .notUtf8 ∧ fs.HoldsNoText p ∨ e = .isDirectory ∧ fs.isDirectory p = true ∨
      e = .notDirectory ∧ fs.IsBelowFile p ∨ e = .notFound ∧ fs.at? p = .error .notFound := by
  rw [← at?_eq_error_iff, isDirectory_iff_at?]
  unfold readText readBytes HoldsNoText
  cases fs.at? p with
  | error e' => simp
  | ok i =>
    cases i with
    | directory => simp [eq_comm]
    | file bytes =>
      by_cases hvalid : bytes.IsValidUTF8
      · obtain ⟨t, hdecode⟩ : ∃ t, Text.decode? bytes = some t :=
          Option.ne_none_iff_exists'.mp fun hnone => Text.decode?_eq_none_iff.mp hnone hvalid
        simp [hdecode, hvalid]
      · simp [Text.decode?_eq_none_iff.mpr hvalid, hvalid, eq_comm]

/-- Reading a text fails for its bytes exactly where a file holds no text. -/
theorem readText_eq_notUtf8_iff : fs.readText p = .error .notUtf8 ↔ fs.HoldsNoText p := by
  simp [readText_eq_error_iff]

end Files

end AttrFold
