import Mathlib.Data.List.Nodup
import Mathlib.Data.Finset.Card
import AttrFold.ClassList.Layout
import AttrFold.Proofs.Entries
import AttrFold.Proofs.Text.Spacing

/-!
# The layout of a class list

A class name belongs to a group (`Group.of`): to its variant if it has one, and else to its
category. The lines of a layout are the groups that have members (`Group.present`): first the
categories in their fixed order and then the variants as they first appear. The words of a layout
are the class names sorted by their groups, and names of one group keep their order
(`format_groups_stably`).

## The crux

The lines of variants grow while the class names are gone through, one name after the other, and
their keys are found on the way. `foldl_addVariant` says what they are after any number of names:
the different variants of these names as they first appeared, each with its own names. From there on
a layout is a list of filters, and `flatMap_filter_eq_mergeSort` says that going through the ranks
and filtering is sorting.
-/

namespace AttrFold.ClassList

/-! ## Sorting by ranks -/

section Sorting

variable {α β : Type} [DecidableEq β]

theorem idxOf_le_trans (f : α → β) (ranks : List β) (x y z : α)
    (hxy : decide (ranks.idxOf (f x) ≤ ranks.idxOf (f y)) = true)
    (hyz : decide (ranks.idxOf (f y) ≤ ranks.idxOf (f z)) = true) :
    decide (ranks.idxOf (f x) ≤ ranks.idxOf (f z)) = true := by
  rw [decide_eq_true_iff] at *
  exact Nat.le_trans hxy hyz

theorem idxOf_le_total (f : α → β) (ranks : List β) (x y : α) :
    (decide (ranks.idxOf (f x) ≤ ranks.idxOf (f y))
      || decide (ranks.idxOf (f y) ≤ ranks.idxOf (f x))) = true := by
  rw [Bool.or_eq_true, decide_eq_true_iff, decide_eq_true_iff]
  exact Nat.le_total _ _

/-- Two ways of cutting a list agree when they cut it where a property ends. -/
theorem append_inj_of_ends {p : α → Bool} {as bs cs ds : List α} (has : ∀ x ∈ as, p x = true)
    (hbs : ∀ x ∈ bs, ¬p x = true) (hcs : ∀ x ∈ cs, p x = true) (hds : ∀ x ∈ ds, ¬p x = true)
    (h : as ++ bs = cs ++ ds) : as = cs ∧ bs = ds := by
  have hfilter := congrArg (List.filter p) h
  rw [List.filter_append, List.filter_append, List.filter_eq_self.mpr has,
    List.filter_eq_self.mpr hcs, List.filter_eq_nil_iff.mpr hbs, List.filter_eq_nil_iff.mpr hds,
    List.append_nil, List.append_nil] at hfilter
  subst hfilter
  exact ⟨rfl, List.append_cancel_left h⟩

/-- An element of none of the ranks is taken out nowhere. -/
theorem flatMap_filter_cons_of_not_mem (f : α → β) {rs : List β} {x : α} (xs : List α)
    (h : f x ∉ rs) :
    (rs.flatMap fun r => (x :: xs).filter fun y => f y = r)
      = rs.flatMap fun r => xs.filter fun y => f y = r := by
  refine List.flatMap_congr fun r hr => List.filter_cons_of_neg ?_
  rw [decide_eq_true_iff]
  exact fun heq => h (heq ▸ hr)

theorem mem_of_mem_flatMap_filter {f : α → β} {rs : List β} {xs : List α} {y : α}
    (h : y ∈ rs.flatMap fun r => xs.filter fun z => f z = r) : f y ∈ rs := by
  obtain ⟨r, hr, hy⟩ := List.mem_flatMap.mp h
  have heq : f y = r := of_decide_eq_true (List.mem_filter.mp hy).2
  rwa [heq]

/-- Taking out the members of one rank after the other is a stable sort by ranks. -/
theorem flatMap_filter_eq_mergeSort (f : α → β) {ranks : List β} (hnodup : ranks.Nodup) {xs : List α}
    (hmem : ∀ x ∈ xs, f x ∈ ranks) :
    (ranks.flatMap fun r => xs.filter fun x => f x = r)
      = xs.mergeSort fun x y => ranks.idxOf (f x) ≤ ranks.idxOf (f y) := by
  have htrans := idxOf_le_trans f ranks
  have htotal := idxOf_le_total f ranks
  induction xs with
  | nil => simp
  | cons x xs ih =>
    have ih := ih fun y hy => hmem y (List.mem_cons_of_mem x hy)
    obtain ⟨lower, upper, hsorted, hrest, hlower⟩ := List.mergeSort_cons htrans htotal x xs
    have hpairwise := List.pairwise_mergeSort htrans htotal (x :: xs)
    obtain ⟨before, after, rfl⟩ := List.append_of_mem (hmem x List.mem_cons_self)
    obtain ⟨-, hself, hapart⟩ := List.nodup_append.mp hnodup
    have hbefore : f x ∉ before := fun h => hapart _ h _ List.mem_cons_self rfl
    have hafter : f x ∉ after := (List.nodup_cons.mp hself).1
    have hplace : (before ++ f x :: after).idxOf (f x) = before.length := by
      rw [List.idxOf_append_of_notMem hbefore, List.idxOf_cons_self, Nat.add_zero]
    rw [hsorted, List.pairwise_append, List.pairwise_cons] at hpairwise
    rw [hsorted, List.flatMap_append, List.flatMap_cons, flatMap_filter_cons_of_not_mem f xs hbefore,
      flatMap_filter_cons_of_not_mem f xs hafter, List.filter_cons_of_pos (by simp)]
    rw [hrest, List.flatMap_append, List.flatMap_cons] at ih
    -- both lists are cut where the ranks below that of the first element end
    let isLower (y : α) : Bool := (before ++ f x :: after).idxOf (f y) < before.length
    have hlow : ∀ y ∈ before.flatMap (fun r => xs.filter fun z => f z = r), isLower y = true := by
      intro y hy
      have hin := mem_of_mem_flatMap_filter hy
      rw [decide_eq_true_iff, List.idxOf_append_of_mem hin]
      exact List.idxOf_lt_length_of_mem hin
    have hhigh : ∀ y ∈ (xs.filter fun z => f z = f x)
        ++ after.flatMap (fun r => xs.filter fun z => f z = r), ¬isLower y = true := by
      intro y hy
      have hin : f y ∈ f x :: after := by
        rcases List.mem_append.mp hy with hy | hy
        · exact List.mem_cons.mpr (Or.inl (of_decide_eq_true (List.mem_filter.mp hy).2))
        · exact List.mem_cons_of_mem _ (mem_of_mem_flatMap_filter hy)
      have hout : f y ∉ before := fun h => hapart _ h _ hin rfl
      rw [decide_eq_true_iff, List.idxOf_append_of_notMem hout]
      omega
    have hlow' : ∀ y ∈ lower, isLower y = true := by
      intro y hy
      simpa [isLower, hplace] using hlower y hy
    have hhigh' : ∀ y ∈ upper, ¬isLower y = true := by
      intro y hy
      simpa [isLower, hplace] using hpairwise.2.1.1 y hy
    obtain ⟨hfirst, hsecond⟩ := append_inj_of_ends hlow hhigh hlow' hhigh' ih
    rw [hfirst, List.cons_append, hsecond]

end Sorting

/-! ## Groups -/

/-- What the line of a class name is decided by. -/
inductive Group where
  | category (c : Category)
  | variant (beginning : Text)
deriving DecidableEq

namespace Group

/-- The group of a class name: its variant, or the category of a name without one. -/
def of (name : Text) : Group :=
  if hasVariant name then .variant (ClassList.variant name) else .category (Category.of name)

/-- The names of a group, as they follow each other. -/
def members (names : List Text) (g : Group) : List Text := names.filter fun name => of name = g

/-- All categories in their order, and after these the variants as they first appear. -/
def order (names : List Text) : List Group :=
  Category.all.map category
    ++ ((names.filter hasVariant).map ClassList.variant).eraseDups.map variant

/-- The groups that have members, in the order of groups. -/
def present (names : List Text) : List Group := (order names).filter fun g => members names g ≠ []

/-- How far on the group of a name stands in the order. -/
def rank (names : List Text) (name : Text) : Nat := (order names).idxOf (of name)

variable {names : List Text} {name v : Text} {g : Group}

/-- The names of a variant's group are those with that variant. -/
theorem of_eq_variant_iff :
    of name = .variant v ↔ hasVariant name = true ∧ ClassList.variant name = v := by
  unfold of
  by_cases hv : hasVariant name = true
  · simp [hv]
  · simp [hv]

theorem mem_members_iff : name ∈ members names g ↔ name ∈ names ∧ of name = g := by
  rw [members, List.mem_filter, decide_eq_true_iff]

/-- Every name has its group in the order of groups. -/
theorem of_mem_order (h : name ∈ names) : of name ∈ order names := by
  unfold order of
  rw [List.mem_append]
  by_cases hv : hasVariant name = true
  · rw [if_pos hv]
    have hmem : name ∈ names.filter hasVariant := List.mem_filter.mpr ⟨h, hv⟩
    exact Or.inr (List.mem_map_of_mem (List.mem_eraseDups.mpr (List.mem_map_of_mem hmem)))
  · rw [if_neg hv]
    have hall : Category.of name ∈ Category.all := by
      cases Category.of name <;> decide
    exact Or.inl (List.mem_map_of_mem hall)

theorem nodup_order (names : List Text) : (order names).Nodup := by
  have hcategories : (Category.all.map category).Nodup := by decide
  have hvariants :=
    (nodup_eraseDups ((names.filter hasVariant).map ClassList.variant)).map
      (f := variant) fun _ _ => variant.inj
  refine List.nodup_append.mpr ⟨hcategories, hvariants, fun g hg h hh heq => ?_⟩
  -- no category is a variant
  obtain ⟨c, -, rfl⟩ := List.mem_map.mp hg
  obtain ⟨v, -, rfl⟩ := List.mem_map.mp hh
  cases heq

/-- A group has members exactly if one of the names is in it. -/
theorem mem_present_iff : g ∈ present names ↔ ∃ name ∈ names, of name = g := by
  rw [present, List.mem_filter, decide_eq_true_iff]
  constructor
  · rintro ⟨-, hne⟩
    obtain ⟨name, hname⟩ := List.exists_mem_of_ne_nil _ hne
    exact ⟨name, mem_members_iff.mp hname⟩
  · rintro ⟨name, hname, rfl⟩
    exact ⟨of_mem_order hname, List.ne_nil_of_mem (mem_members_iff.mpr ⟨hname, rfl⟩)⟩

/-- There are as many groups with members as the names have different groups. -/
theorem length_present (names : List Text) :
    (present names).length = (names.map of).toFinset.card := by
  have hnodup : (present names).Nodup := (nodup_order names).filter _
  rw [← List.toFinset_card_of_nodup hnodup]
  congr 1
  ext g
  rw [List.mem_toFinset, List.mem_toFinset, mem_present_iff, List.mem_map]

end Group

/-! ## Lines -/

/-- The line of a category holds the members of its group. -/
theorem categoryLine_eq (names : List Text) (c : Category) :
    categoryLine names c = Group.members names (.category c) := by
  refine List.filter_congr fun name _ => ?_
  by_cases hv : hasVariant name = true <;> simp [Group.of, hv]

/-- Adding names one by one collects, for each variant as it first appears, all names that have it.
-/
theorem foldl_addVariant (names : List Text) :
    names.foldl addVariant []
      = (names.map variant).eraseDups.map fun v => (v, names.filter fun name => variant name = v) := by
  induction names using List.reverseRecOn with
  | nil => rfl
  | append_singleton names name ih =>
    rw [List.foldl_append, List.foldl_cons, List.foldl_nil, ih, List.map_append, List.map_singleton]
    unfold addVariant
    by_cases hold : variant name ∈ names.map variant
    · -- the line of the variant grows in its place
      have hin := List.mem_eraseDups.mpr hold
      rw [eraseDups_concat_of_mem hold, Entries.get?_map_of_mem hin, Option.getD_some,
        Entries.put_map_of_mem (nodup_eraseDups _) hin]
      refine List.map_congr_left fun v _ => ?_
      by_cases hv : v = variant name
      · simp [hv, List.filter_append]
      · simp [hv, List.filter_append, Ne.symm hv]
    · -- a new line is added at the end
      have hout : variant name ∉ Entries.keys ((names.map variant).eraseDups.map fun v =>
          (v, names.filter fun name => variant name = v)) := by
        rw [Entries.keys_map]
        exact fun h => hold (List.mem_eraseDups.mp h)
      have hnone : (names.filter fun other => variant other = variant name) = [] := by
        refine List.filter_eq_nil_iff.mpr fun other hother => ?_
        rw [decide_eq_true_iff]
        exact fun heq => hold (heq ▸ List.mem_map_of_mem hother)
      rw [eraseDups_concat_of_not_mem hold, Entries.get?_of_not_mem hout, Option.getD_none,
        Entries.put_of_not_mem _ hout, List.map_append, List.map_singleton, List.filter_append, hnone]
      refine congrArg₂ _ (List.map_congr_left fun v hv => ?_) (by simp)
      have hne : variant name ≠ v := fun heq => hold (heq ▸ List.mem_eraseDups.mp hv)
      simp [List.filter_append, hne]

/-- The lines of variants hold the members of their groups. -/
theorem variantLines_eq (names : List Text) :
    (variantLines names).map Prod.snd
      = (((names.filter hasVariant).map variant).eraseDups.map Group.variant).map
          (Group.members names) := by
  rw [variantLines, foldl_addVariant, List.map_map, List.map_map]
  refine List.map_congr_left fun v _ => ?_
  rw [Function.comp_apply, Function.comp_apply, List.filter_filter]
  refine List.filter_congr fun name _ => ?_
  by_cases hv : hasVariant name = true <;> simp [Group.of, hv]

/-- The lines of a layout are the groups in their order, without those that have no members. -/
theorem layout_eq_filter (names : List Text) :
    layout names
      = ((Group.order names).map (Group.members names)).filter fun line => !line.isEmpty := by
  have hcategories : Category.all.map (categoryLine names)
      = (Category.all.map Group.category).map (Group.members names) := by
    rw [List.map_map]
    exact List.map_congr_left fun c _ => categoryLine_eq names c
  rw [layout, hcategories, variantLines_eq, ← List.map_append]
  rfl

/-- The lines of a layout are the groups that have members. -/
theorem layout_eq (names : List Text) :
    layout names = (Group.present names).map (Group.members names) := by
  rw [layout_eq_filter, List.filter_map]
  refine congrArg _ (List.filter_congr fun g _ => ?_)
  rw [Function.comp_apply]
  cases Group.members names g <;> rfl

/-- The names of a layout, line by line, are the names in the order of their groups. -/
theorem flatten_layout (names : List Text) :
    (layout names).flatten = (Group.order names).flatMap (Group.members names) := by
  rw [layout_eq_filter, List.flatten_filter_not_isEmpty, ← List.flatMap_def]

/-- The names of a layout are the given ones, in a stable sort by their groups. -/
theorem flatten_layout_eq_mergeSort (names : List Text) :
    (layout names).flatten
      = names.mergeSort fun a b => Group.rank names a ≤ Group.rank names b := by
  rw [flatten_layout]
  exact flatMap_filter_eq_mergeSort Group.of (Group.nodup_order names)
    fun name hname => Group.of_mem_order hname

/-! ## The text of a layout -/

theorem isWord_of_mem_tokens {name t : Text} (h : name ∈ tokens t) : Text.IsWord name :=
  Text.isWord_of_mem_words h

/-- The words of lines of text are the names on the lines. -/
theorem words_flatMap_lineText {lines : List (List Text)}
    (h : ∀ line ∈ lines, ∀ w ∈ line, Text.IsWord w) :
    Text.words (lines.flatMap lineText) = lines.flatten := by
  induction lines with
  | nil => exact Text.words_nil
  | cons line lines ih =>
    have hline := Text.words_joinWith (b := ' ') (by decide) (h line List.mem_cons_self)
    have hlines := ih fun l hl => h l (List.mem_cons_of_mem line hl)
    rw [List.flatMap_cons, lineText, List.append_assoc, List.singleton_append,
      Text.words_append_blank (by decide), hlines, List.flatten_cons]
    exact congrArg (· ++ _) hline

/-- Each line of text has one line feed, since a word has none. -/
theorem count_flatMap_lineText {lines : List (List Text)}
    (h : ∀ line ∈ lines, ∀ w ∈ line, Text.IsWord w) :
    (lines.flatMap lineText).count '\n' = lines.length := by
  induction lines with
  | nil => rfl
  | cons line lines ih =>
    have hlines := ih fun l hl => h l (List.mem_cons_of_mem line hl)
    have hnone : '\n' ∉ Text.joinWith " " line :=
      (Text.singleSpaced_joinWith (h line List.mem_cons_self)).not_mem (by decide) (by decide)
    rw [List.flatMap_cons, List.count_append, hlines, lineText, List.count_append,
      List.count_eq_zero.mpr hnone, List.length_cons]
    show 0 + 1 + lines.length = lines.length + 1
    omega

/-- A layout in groups: each line is one of the groups that have members. -/
theorem format_eq (t : Text) :
    format t = (Group.present (tokens t)).flatMap fun g => lineText (Group.members (tokens t) g) := by
  rw [format, layout_eq, List.flatMap_map]

theorem isWord_of_mem_line {t : Text} :
    ∀ line ∈ (Group.present (tokens t)).map (Group.members (tokens t)), ∀ name ∈ line,
      Text.IsWord name := by
  intro line hline name hname
  obtain ⟨g, -, rfl⟩ := List.mem_map.mp hline
  exact isWord_of_mem_tokens (Group.mem_members_iff.mp hname).1

/-- The words of a layout are the names on its lines. -/
theorem words_format_eq_flatten (t : Text) : Text.words (format t) = (layout (tokens t)).flatten := by
  have hwords : ∀ line ∈ layout (tokens t), ∀ name ∈ line, Text.IsWord name := by
    rw [layout_eq]
    exact isWord_of_mem_line
  exact words_flatMap_lineText hwords

/-- The words of a layout are the class names, sorted by their groups. -/
theorem words_format (t : Text) :
    Text.words (format t)
      = (tokens t).mergeSort fun a b => Group.rank (tokens t) a ≤ Group.rank (tokens t) b := by
  rw [words_format_eq_flatten, flatten_layout_eq_mergeSort]

/-- A layout has as many lines as the class names have different groups. -/
theorem count_format (t : Text) :
    (format t).count '\n' = ((tokens t).map Group.of).toFinset.card := by
  rw [format, layout_eq, count_flatMap_lineText isWord_of_mem_line, List.length_map,
    Group.length_present]

/-- A layout is empty only where there are no class names. -/
theorem format_eq_nil_iff (t : Text) : format t = [] ↔ tokens t = [] := by
  constructor
  · intro h
    have hcount := count_format t
    rw [h, List.count_nil, eq_comm, Finset.card_eq_zero, List.toFinset_eq_empty_iff] at hcount
    exact List.map_eq_nil_iff.mp hcount
  · intro h
    have hpresent : Group.present (tokens t) = [] := by
      refine List.eq_nil_iff_forall_not_mem.mpr fun g hg => ?_
      obtain ⟨name, hname, -⟩ := Group.mem_present_iff.mp hg
      rw [h] at hname
      cases hname
    rw [format_eq, hpresent, List.flatMap_nil]

/-- **A layout is a stable sort by groups that loses and invents nothing.** It consists of one line for
each group that has members, in the order of groups, and a line holds the members of its group as they
follow each other. So its words are the class names sorted by their groups, its lines are as many as the
class names have groups, and it is empty only when there are no class names. -/
theorem format_groups_stably (t : Text) :
    format t
        = ((Group.present (tokens t)).flatMap fun g =>
            Text.joinWith " " (Group.members (tokens t) g) ++ ['\n'])
      ∧ (Text.words (format t)
          = (tokens t).mergeSort fun a b => Group.rank (tokens t) a ≤ Group.rank (tokens t) b)
      ∧ (Text.words (format t)).Perm (tokens t)
      ∧ (format t).count '\n' = ((tokens t).map Group.of).toFinset.card
      ∧ (format t = [] ↔ tokens t = []) := by
  refine ⟨format_eq t, words_format t, ?_, count_format t, format_eq_nil_iff t⟩
  rw [words_format]
  exact List.mergeSort_perm _ _

example : format "a:b flex a: p-4 : grid a:b" = "flex grid\np-4\na:b a: a:b\n:\n" := by
  decide +kernel

end AttrFold.ClassList
