import AttrFold.Proofs.ClassList.Layout
import AttrFold.Proofs.ClassList.Token

/-!
# Laying out a class list a second time

A layout keeps the order of its names when it is laid out again: their groups are the same, in the
same order, with the same members (`layout_flatten_layout`). What a second run can change are the
ends. Reading a class list takes quotes and braces from its ends, and a name that holds one may have
come there from within. Then the second run loses it; in every other case it changes nothing
(`format_format_eq_iff`).

## The crux

Formatting neither invents nor loses a character that is not blank, except at the two ends. So
whether a text is a fixed point is first of all a matter of counting: `length_visible_format_eq_iff`
says that no such character is lost exactly if no delimiter stands at an end of the text.
-/

namespace AttrFold.ClassList

/-! ## The groups of a layout

A layout is a stable sort, so the members of a group stay in their order, and the lines of variants
stand in the order in which their variants first appear. Nothing is left to be moved. -/

section Regrouping

variable (names : List Text)

/-- A group has the same members in a layout, and they follow each other as before. -/
theorem members_flatten_layout (g : Group) :
    Group.members (layout names).flatten g = Group.members names g := by
  have hperm := (List.mergeSort_perm names fun a b => Group.rank names a ≤ Group.rank names b)
  rw [flatten_layout_eq_mergeSort]
  have hsub : (Group.members names g).Sublist
      (names.mergeSort fun a b => Group.rank names a ≤ Group.rank names b) := by
    refine List.sublist_mergeSort (idxOf_le_trans Group.of _) (idxOf_le_total Group.of _) ?_
      List.filter_sublist
    -- the members of one group have one rank
    refine List.pairwise_of_forall_mem_list fun a ha b hb => ?_
    rw [decide_eq_true_iff, (Group.mem_members_iff.mp ha).2, (Group.mem_members_iff.mp hb).2]
  have hself : (Group.members names g).filter (fun name => Group.of name = g)
      = Group.members names g :=
    List.filter_eq_self.mpr fun name hname => decide_eq_true (Group.mem_members_iff.mp hname).2
  have hkept := hsub.filter fun name => Group.of name = g
  rw [hself] at hkept
  exact (hkept.eq_of_length (hperm.filter _).length_eq.symm).symm

/-- The names with variants stand in a layout variant by variant. -/
theorem filter_hasVariant_flatten_layout :
    (layout names).flatten.filter hasVariant
      = ((names.filter hasVariant).map variant).eraseDups.flatMap
          fun v => Group.members names (.variant v) := by
  have hcategories : ((Category.all.map Group.category).flatMap (Group.members names)).filter
      hasVariant = [] := by
    refine List.filter_eq_nil_iff.mpr fun name hname hv => ?_
    obtain ⟨g, hg, hmem⟩ := List.mem_flatMap.mp hname
    obtain ⟨c, -, rfl⟩ := List.mem_map.mp hg
    have hof : Group.of name = .variant (variant name) := Group.of_eq_variant_iff.mpr ⟨hv, rfl⟩
    cases hof.symm.trans (Group.mem_members_iff.mp hmem).2
  have hvariants : ∀ name ∈ ((names.filter hasVariant).map variant).eraseDups.flatMap
      (fun v => Group.members names (.variant v)), hasVariant name = true := by
    intro name hname
    obtain ⟨v, -, hmem⟩ := List.mem_flatMap.mp hname
    exact (Group.of_eq_variant_iff.mp (Group.mem_members_iff.mp hmem).2).1
  rw [flatten_layout, Group.order, List.flatMap_append, List.filter_append, hcategories,
    List.nil_append, List.flatMap_map]
  exact List.filter_eq_self.mpr hvariants

/-- The variants of a layout first appear in the order in which they first appeared before. -/
theorem order_flatten_layout : Group.order (layout names).flatten = Group.order names := by
  unfold Group.order
  rw [filter_hasVariant_flatten_layout, eraseDups_map_flatMap (nodup_eraseDups _)]
  · intro v hv
    obtain ⟨name, hname, rfl⟩ := List.mem_map.mp (List.mem_eraseDups.mp hv)
    obtain ⟨hmem, hvariant⟩ := List.mem_filter.mp hname
    have hof := Group.of_eq_variant_iff.mpr ⟨hvariant, rfl⟩
    exact List.ne_nil_of_mem (Group.mem_members_iff.mpr ⟨hmem, hof⟩)
  · intro v hv name hname
    exact (Group.of_eq_variant_iff.mp (Group.mem_members_iff.mp hname).2).2

/-- Names that are laid out already are laid out in the same way again. -/
theorem layout_flatten_layout : layout (layout names).flatten = layout names := by
  have hmembers := funext (members_flatten_layout names)
  calc layout (layout names).flatten
      = ((Group.order (layout names).flatten).map (Group.members (layout names).flatten)).filter
          fun line => !line.isEmpty := layout_eq_filter _
    _ = ((Group.order names).map (Group.members names)).filter fun line => !line.isEmpty := by
        rw [order_flatten_layout, hmembers]
    _ = layout names := (layout_eq_filter names).symm

end Regrouping

/-! ## The ends of a class list

What is taken from the ends are blanks and delimiters. Blanks belong to no name, so only delimiters
can make a difference, and they do: the names of the rest hold fewer characters. -/

/-- Whether a character is a quote or a brace: what may surround a class list and is not blank. -/
def isDelimiter (c : Char) : Bool :=
  c = '\'' || c = '"' || c = '\x60' || c = '\x7b' || c = '\x7d'

theorem isEdge_eq_or (c : Char) : isEdge c = (isDelimiter c || Text.isBlank c) := rfl

/-- A text without blanks at its ends is free of edge characters there as soon as it is free of
delimiters. -/
theorem bare_isEdge_of_strip {t : Text} (h : Text.Bare isDelimiter (Text.strip t)) :
    Text.Bare isEdge (Text.strip t) := by
  have hblank := Text.bare_trimWhile Text.isBlank t
  refine ⟨fun c hc => ?_, fun c hc => ?_⟩
  · rw [isEdge_eq_or, h.head c hc, hblank.head c hc, Bool.or_false]
  · rw [isEdge_eq_or, h.last c hc, hblank.last c hc, Bool.or_false]

/-- Without a delimiter at its ends a class list is read word by word. -/
theorem tokens_eq_words {t : Text} (h : Text.Bare isDelimiter (Text.strip t)) :
    tokens t = Text.words t := by
  rw [tokens_eq_words_strip, (bare_isEdge_of_strip h).trimWhile_eq, Text.words_strip]

/-- When reading a class list loses no character but blanks, no delimiter stands at its ends. -/
theorem bare_of_length_tokens {t : Text}
    (h : (tokens t).flatten.length = (Text.visible t).length) :
    Text.Bare isDelimiter (Text.strip t) := by
  obtain ⟨front, back, hparts, -, -⟩ := Text.exists_eq_append_trimWhile isEdge (Text.strip t)
  have hcore := Text.bare_trimWhile isEdge (Text.strip t)
  rw [tokens_eq_words_strip, Text.flatten_words] at h
  generalize Text.trimWhile isEdge (Text.strip t) = core at h hparts hcore
  -- what was cut off is blank, since the counts agree
  have hvisible : Text.visible t = Text.visible front ++ Text.visible core ++ Text.visible back := by
    rw [← Text.visible_strip, hparts, Text.visible_append, Text.visible_append]
  have hlength := congrArg List.length hvisible
  rw [List.length_append, List.length_append] at hlength
  have hfront : Text.visible front = [] := List.length_eq_zero_iff.mp (by omega)
  have hback : Text.visible back = [] := List.length_eq_zero_iff.mp (by omega)
  rw [hfront, hback, List.nil_append, List.append_nil] at hvisible
  -- so the first and the last character are those of what is left, and they are no delimiters
  have hdelimiter : Text.Bare isDelimiter core :=
    hcore.mono fun c hc => by rw [isEdge_eq_or, hc, Bool.true_or]
  have hblank : Text.Bare Text.isBlank core :=
    hcore.mono fun c hc => isEdge_of_isBlank hc
  refine ⟨fun c hc => hdelimiter.head c ?_, fun c hc => hdelimiter.last c ?_⟩
  · rw [← hblank.head?_visible, ← hvisible, ← Text.head?_strip]
    exact hc
  · rw [← hblank.getLast?_visible, ← hvisible, ← Text.getLast?_strip]
    exact hc

/-- A layout has the characters of the class names, and blanks. -/
theorem length_visible_format (t : Text) :
    (Text.visible (format t)).length = (tokens t).flatten.length := by
  have hperm : (Text.words (format t)).Perm (tokens t) := by
    rw [words_format]
    exact List.mergeSort_perm _ _
  rw [← Text.flatten_words, hperm.flatten.length_eq]

/-- Formatting keeps all characters but blanks exactly if no delimiter stands at an end of the text. -/
theorem length_visible_format_eq_iff (t : Text) :
    (Text.visible (format t)).length = (Text.visible t).length
      ↔ Text.Bare isDelimiter (Text.strip t) := by
  rw [length_visible_format]
  refine ⟨bare_of_length_tokens, fun h => ?_⟩
  rw [tokens_eq_words h, Text.flatten_words]

/-- A layout has no more characters than its text, blanks left aside. -/
theorem length_visible_format_le (t : Text) :
    (Text.visible (format t)).length ≤ (Text.visible t).length := by
  obtain ⟨front, back, hparts, -, -⟩ := Text.exists_eq_append_trimWhile isEdge (Text.strip t)
  have hvisible := congrArg (fun s => (Text.visible s).length) hparts
  simp only [Text.visible_strip, Text.visible_append, List.length_append] at hvisible
  rw [length_visible_format, tokens_eq_words_strip, Text.flatten_words]
  omega

/-! ## The second run

A layout begins with a name and ends with a line feed. So its first character is one of the two that
decide, and the other one is the last before the blanks at its end. -/

/-- A layout begins with the first character of its first name. -/
theorem exists_cons_of_format_ne_nil {t : Text} (h : format t ≠ []) :
    ∃ c rest, format t = c :: rest ∧ Text.isBlank c = false := by
  have hwords := isWord_of_mem_line (t := t)
  rw [← layout_eq] at hwords
  unfold format at h ⊢
  cases hlayout : layout (tokens t) with
  | nil =>
    rw [hlayout] at h
    exact absurd rfl h
  | cons line lines =>
    have hmem : line ∈ layout (tokens t) := hlayout ▸ List.mem_cons_self
    have hline : line ≠ [] := by simpa using (List.mem_filter.mp hmem).2
    obtain ⟨name, names, rfl⟩ := List.exists_cons_of_ne_nil hline
    have hname := hwords _ hmem name List.mem_cons_self
    obtain ⟨c, cs, rfl⟩ := List.exists_cons_of_ne_nil hname.nonempty
    have hblank := hname.no_blank c List.mem_cons_self
    cases names with
    | nil => exact ⟨c, _, rfl, hblank⟩
    | cons other names => exact ⟨c, _, rfl, hblank⟩

/-- A layout does not begin with a blank. -/
theorem head?_format (t : Text) : (format t).head? = (Text.visible (format t)).head? := by
  by_cases h : format t = []
  · rw [h]
    rfl
  · obtain ⟨c, rest, heq, hblank⟩ := exists_cons_of_format_ne_nil h
    simp [heq, Text.visible, hblank]

/-- A delimiter at an end of a layout is its first character, or its last one that is not blank. -/
theorem bare_strip_format_iff (t : Text) :
    Text.Bare isDelimiter (Text.strip (format t))
      ↔ (format t).head?.any isDelimiter = false
        ∧ (Text.visible (format t)).getLast?.any isDelimiter = false := by
  have hany (o : Option Char) :
      o.any isDelimiter = false ↔ ∀ c, o = some c → isDelimiter c = false := by
    cases o <;> simp
  rw [hany, hany, head?_format, ← Text.head?_strip, ← Text.getLast?_strip]
  exact ⟨fun h => ⟨h.head, h.last⟩, fun h => ⟨h.1, h.2⟩⟩

/-- **A layout is a fixed point unless a delimiter stands at one of its ends.** Its first character
and the last one that is not blank decide: when neither is a quote or a brace, the second run yields
the layout as it is. Otherwise the second run takes such a character away. -/
theorem format_format_eq_iff (t : Text) :
    (format (format t) = format t
      ↔ format t = [] ∨ (format t).head?.any isDelimiter = false
        ∧ (Text.visible (format t)).getLast?.any isDelimiter = false)
    ∧ (format (format t) = format t
      ∨ (Text.visible (format (format t))).length < (Text.visible (format t)).length) := by
  rw [← bare_strip_format_iff]
  have hfixed : Text.Bare isDelimiter (Text.strip (format t)) → format (format t) = format t := by
    intro h
    rw [format, tokens_eq_words h, words_format_eq_flatten, layout_flatten_layout]
    rfl
  refine ⟨⟨fun h => Or.inr ?_, fun h => ?_⟩, ?_⟩
  · apply (length_visible_format_eq_iff (format t)).mp
    rw [h]
  · rcases h with h | h
    · rw [h]
      rfl
    · exact hfixed h
  · -- a text that keeps all of its characters has no delimiter at an end, so it is not changed
    rcases Nat.lt_or_eq_of_le (length_visible_format_le (format t)) with hless | hsame
    · exact Or.inr hless
    · exact Or.inl (hfixed ((length_visible_format_eq_iff (format t)).mp hsame))

example : format "b:y' p-1" = "p-1\nb:y'\n" ∧ format "p-1\nb:y'\n" = "p-1\nb:y\n" := by
  decide +kernel

end AttrFold.ClassList
