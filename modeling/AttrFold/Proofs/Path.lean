import AttrFold.Path
import AttrFold.Proofs.Text.Words

/-!
# Paths that are read from a text

Of a path that is read, the names hold no slash and are neither empty nor a single dot
(`WellFormed`). So it is read once more from the text that shows it (`ofText_text`), and what it is
compared by tells it apart from every other path (`components_injective`). What stands from the last
dot of a name on is its suffix, when it is neither the whole name nor the dot alone
(`suffixOf_append`).
-/

namespace AttrFold.Path

/-- What can stand between slashes and be kept. -/
structure IsName (n : Text) : Prop where
  nonempty : n ≠ []
  not_dot : n ≠ ['.']
  no_slash : '/' ∉ n

/-- A path as texts are read: anchored by no, one or two slashes, and then names. -/
structure WellFormed (p : Path) : Prop where
  anchor : p.anchor = [] ∨ p.anchor = ['/'] ∨ p.anchor = ['/', '/']
  names : ∀ n ∈ p.names, IsName n

variable {p q : Path}

theorem isName_of_mem_namesOf {n t : Text} (h : n ∈ namesOf t) : IsName n := by
  obtain ⟨hpart, hkept⟩ := List.mem_filter.mp h
  rw [List.splitOn_eq_splitOnP] at hpart
  have hslash := Text.eq_false_of_mem_splitOnP hpart
  have hkept : n ≠ [] ∧ n ≠ ['.'] := by simpa using hkept
  refine ⟨hkept.1, hkept.2, fun hmem => ?_⟩
  exact absurd (hslash '/' hmem) (by decide)

/-- A path that is read is in its normal form. -/
theorem wellFormed_ofText (t : Text) : (ofText t).WellFormed := by
  refine ⟨?_, fun n hn => isName_of_mem_namesOf hn⟩
  show anchorOf t = [] ∨ anchorOf t = ['/'] ∨ anchorOf t = ['/', '/']
  unfold anchorOf
  split <;> simp

/-! ## Reading what is shown -/

/-- A slash more makes no more names. -/
theorem namesOf_slash (t : Text) : namesOf ('/' :: t) = namesOf t := by
  unfold namesOf
  rw [List.splitOn_eq_splitOnP, List.splitOnP_cons_eq_if_modifyHead, List.splitOn_eq_splitOnP]
  simp

/-- Names that are joined by slashes are cut apart again. -/
theorem namesOf_joinWith {names : List Text} (h : ∀ n ∈ names, IsName n) :
    namesOf (Text.joinWith ['/'] names) = names := by
  have hkept : names.filter (fun n => n ≠ [] && n ≠ ['.']) = names := by
    rw [List.filter_eq_self]
    intro n hn
    simp [(h n hn).nonempty, (h n hn).not_dot]
  cases names with
  | nil => rfl
  | cons n ns =>
    unfold namesOf Text.joinWith
    rw [List.splitOn_intercalate '/' (fun m hm => (h m hm).no_slash) (List.cons_ne_nil n ns), hkept]

/-- Names do not begin with a slash, so none is added to the anchor where a path is shown. -/
theorem anchorOf_append {anchor : Text} {names : List Text}
    (hanchor : anchor = [] ∨ anchor = ['/'] ∨ anchor = ['/', '/']) (h : ∀ n ∈ names, IsName n) :
    anchorOf (anchor ++ Text.joinWith ['/'] names) = anchor := by
  have hfirst : (Text.joinWith ['/'] names).takeWhile (· = '/') = [] := by
    cases names with
    | nil => rfl
    | cons n ns =>
      have hname := h n List.mem_cons_self
      obtain ⟨c, cs, rfl⟩ := List.exists_cons_of_ne_nil hname.nonempty
      have hc : c ≠ '/' := by
        rintro rfl
        exact hname.no_slash List.mem_cons_self
      obtain ⟨rest, hrest⟩ : ∃ rest, Text.joinWith ['/'] ((c :: cs) :: ns) = c :: rest := by
        unfold Text.joinWith
        cases ns with
        | nil => exact ⟨cs, List.intercalate_singleton⟩
        | cons m ms => exact ⟨_, List.intercalate_cons_cons⟩
      rw [hrest, List.takeWhile_cons_of_neg (by simpa using hc)]
  unfold anchorOf
  rcases hanchor with rfl | rfl | rfl <;> simp [hfirst]

/-- **A path is read from the text that shows it.** -/
theorem ofText_text (h : p.WellFormed) : ofText p.text = p := by
  obtain ⟨anchor, names⟩ := p
  by_cases hempty : anchor = [] ∧ names = []
  · obtain ⟨rfl, rfl⟩ := hempty
    rfl
  · have htext : text ⟨anchor, names⟩ = anchor ++ Text.joinWith ['/'] names := by
      unfold text
      rw [if_neg (by simpa using hempty)]
      rfl
    have hanchor : anchorOf (anchor ++ Text.joinWith ['/'] names) = anchor :=
      anchorOf_append h.anchor h.names
    have hnames : namesOf (anchor ++ Text.joinWith ['/'] names) = names := by
      have hjoin : namesOf (Text.joinWith ['/'] names) = names := namesOf_joinWith h.names
      rcases h.anchor with heq | heq | heq
      · rw [show anchor = [] from heq, List.nil_append, hjoin]
      · rw [show anchor = ['/'] from heq, List.singleton_append, namesOf_slash, hjoin]
      · rw [show anchor = ['/', '/'] from heq, List.cons_append, namesOf_slash, List.singleton_append,
          namesOf_slash, hjoin]
    rw [htext, ofText, hanchor, hnames]

/-! ## Comparing paths -/

/-- An anchor of slashes is no name. -/
theorem WellFormed.not_isName_anchor (h : p.WellFormed) (hne : p.anchor ≠ []) : ¬IsName p.anchor := by
  intro hname
  apply hname.no_slash
  rcases h.anchor with hanchor | hanchor | hanchor
  · exact absurd hanchor hne
  · simp [hanchor]
  · simp [hanchor]

theorem components_of_anchor (h : p.anchor ≠ []) : p.components = p.anchor :: p.names := by
  rw [components, if_neg (by simpa using h)]

theorem components_of_relative (h : p.anchor = []) : p.components = p.names := by
  rw [components, if_pos (by simpa using h)]

/-- An anchor is no name, so the components show whether there is one. -/
theorem components_injective (hp : p.WellFormed) (hq : q.WellFormed)
    (h : p.components = q.components) : p = q := by
  obtain ⟨a, ns⟩ := p
  obtain ⟨b, ms⟩ := q
  by_cases ha : a = []
  · by_cases hb : b = []
    · rw [components_of_relative ha, components_of_relative hb] at h
      rw [ha, hb, show ns = ms from h]
    · rw [components_of_relative ha, components_of_anchor hb] at h
      have hname : IsName b := hp.names b (h ▸ List.mem_cons_self)
      exact absurd hname (hq.not_isName_anchor hb)
  · by_cases hb : b = []
    · rw [components_of_anchor ha, components_of_relative hb] at h
      have hname : IsName a := hq.names a (h ▸ List.mem_cons_self)
      exact absurd hname (hp.not_isName_anchor ha)
    · rw [components_of_anchor ha, components_of_anchor hb] at h
      obtain ⟨hanchor, hnames⟩ := List.cons.inj h
      rw [show a = b from hanchor, show ns = ms from hnames]

/-! ## Suffixes -/

/-- The suffix of a name starts at its last dot. -/
theorem suffixOf_append {stem extension : Text} (hstem : stem ≠ []) (hne : extension ≠ [])
    (hdot : '.' ∉ extension) : suffixOf (stem ++ '.' :: extension) = '.' :: extension := by
  have hpassed : ∀ c ∈ extension.reverse, decide (c ≠ '.') = true := by
    intro c hc
    rw [decide_eq_true_eq]
    rintro rfl
    exact hdot (List.mem_reverse.mp hc)
  have hextension : ((stem ++ '.' :: extension).reverse.takeWhile (· ≠ '.')).reverse = extension := by
    rw [List.reverse_append, List.reverse_cons, List.append_assoc,
      List.takeWhile_append_of_pos hpassed, List.singleton_append, List.takeWhile_cons_of_neg (by simp),
      List.append_nil, List.reverse_reverse]
  have hlong := List.length_pos_iff.mpr hstem
  unfold suffixOf
  simp only [hextension, List.length_append, List.length_cons]
  rw [if_pos]
  simp only [Bool.and_eq_true, decide_eq_true_eq, Bool.not_eq_true', List.isEmpty_eq_false_iff]
  exact ⟨by omega, hne⟩

end AttrFold.Path
